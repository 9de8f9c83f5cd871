import BearerClient.Gateway.Call
import BearerClient.Session.Invalidator

/-!
# The gateway

The gateway owns the session store, the one who ends sessions, the coordinator of refreshes and all
calls at work. Its functions are the indivisible steps that a caller, a refresh cycle or the network
takes. Steps of different callers may come in any order; a step that does not apply changes nothing.

An attempt to end the session is one step here, as if its lock kept everyone out. It keeps out only
other attempts: for what a login or a cycle can do between the look at the session and its removal,
the attempt is taken apart in `Interleaved`.
-/

namespace BearerClient

/-- Something that happened and that an observer may want to know. -/
inductive Notice where
  /-- An attempt of a caller was sent. -/
  | attempt (id : CallId) (token : String) (request : Request)
  /-- An attempt of a caller was answered completely. -/
  | answered (id : CallId) (status : Nat)
  /-- The request of a refresh cycle was sent. -/
  | exchange (cycle : Nat) (refreshToken : String) (request : Request)
  /-- A caller joined a running cycle; `queued` callers are in its queue then. -/
  | joined (id : CallId) (cycle : Nat) (queued : Nat)
  /-- A cycle told its result to its queue. -/
  | settled (cycle : Nat) (queue : List CallId) (result : Except RefreshError String)
  /-- A caller got its answer. -/
  | finished (id : CallId) (answer : Answer)

/-- A gateway over a store, with everything that is at work in it. -/
structure Gateway (σ : Type) where
  /-- The root of the API. -/
  root : ApiRoot
  /-- The session store. -/
  store : σ
  /-- The one who ends sessions. -/
  invalidator : Invalidator
  /-- The coordinator of refreshes. -/
  coordinator : Coordinator
  /-- All callers so far, by number. -/
  calls : List Call
  /-- What has happened, the latest first. -/
  log : List Notice

namespace Gateway

variable {σ : Type}

/-- A gateway that nobody has called yet. -/
def new (root : ApiRoot) (store : σ) : Gateway σ := ⟨root, store, .new, .idle, [], []⟩

/-- Notes something that happened. -/
def note (notice : Notice) (g : Gateway σ) : Gateway σ := { g with log := notice :: g.log }

/-- Moves a caller to a phase. -/
def setPhase (id : CallId) (phase : Phase) (g : Gateway σ) : Gateway σ :=
  { g with calls := g.calls.modify id fun call => { call with phase := phase } }

/-- Gives a caller its answer. -/
def finish (id : CallId) (answer : Answer) (g : Gateway σ) : Gateway σ :=
  (g.setPhase id (.ended answer)).note (.finished id answer)

/-- Ends a request without a payload. -/
def fail (id : CallId) (e : GatewayError) (g : Gateway σ) : Gateway σ :=
  g.finish id (.payload (.error e))

/-- Adds a caller. -/
def start (purpose : Purpose) (g : Gateway σ) : Gateway σ :=
  { g with calls := g.calls ++ [.new purpose] }

/-! ## Attempts -/

/-- Sends an attempt under an access token, after which the caller is in the given phase. A request
that cannot be built or addressed ends the call. -/
def attempt (id : CallId) (d : Descriptor) (token : String) (phase : Request → Phase)
    (g : Gateway σ) : Gateway σ :=
  match Request.build g.root d token with
  | .error message => g.fail id (.internal message)
  | .ok request =>
    if request.url.isSendable then (g.setPhase id (phase request)).note (.attempt id token request)
    else g.fail id (TransportError.unsupported request.url.text).toGatewayError

/-- Takes the answer to an attempt. An attempt that is not refused ends the call; a refused one goes
on in the phase `refused`. -/
def takeAnswer (id : CallId) (shape : Shape) (request : Request) (refused : Phase) (d : Delivery)
    (g : Gateway σ) : Gateway σ :=
  match d.response? request.url with
  | .error e => g.fail id e.toGatewayError
  | .ok response =>
    let g := g.note (.answered id response.status)
    if response.isUnauthorized then g.setPhase id refused
    else g.finish id (.payload (response.classify shape.decode))

/-- Why a session ends whose token is refused although it is fresh. -/
def refusedAgain : String := "request unauthorized after refresh"

/-- Delivers the answer to a caller's outstanding attempt. -/
def deliver (id : CallId) (d : Delivery) (g : Gateway σ) : Gateway σ :=
  match g.calls[id]? with
  | some ⟨.request _ shape, .first token request⟩ =>
    g.takeAnswer id shape request (.asking token .entering) d
  | some ⟨.request _ shape, .second token request⟩ =>
    g.takeAnswer id shape request (.expiring token refusedAgain) d
  | _ => g

/-- The time budget of a request's wait is used up. -/
def expire (id : CallId) (g : Gateway σ) : Gateway σ :=
  match g.calls[id]? with
  | some ⟨.request d shape, phase⟩ =>
    if Call.isWaiting ⟨.request d shape, phase⟩ then g.fail id (.timeout d.timeoutMs) else g
  | _ => g

/-- The owner of a waiting caller gives it up. -/
def abandon (id : CallId) (g : Gateway σ) : Gateway σ :=
  match g.calls[id]? with
  | some call => if call.isWaiting then g.setPhase id .abandoned else g
  | none => g

/-! ## Fresh tokens -/

/-- A caller that has read the session takes the lock and decides. -/
def decideFor (id : CallId) (rejected : String) (settledBefore : Nat) (current : Option Session)
    (g : Gateway σ) : Gateway σ :=
  let c := g.coordinator
  match c.decide rejected settledBefore current with
  | .join =>
    let cycle := (c.flight.map Flight.cycle).getD 0
    ({ g with coordinator := c.join id }.setPhase id (.asking rejected (.queued cycle))).note
      (.joined id cycle (c.queue.length + 1))
  | .again => g.setPhase id (.asking rejected .entering)
  | .give result => g.setPhase id (.asking rejected (.told result))
  | .start =>
    { g with coordinator := c.start id rejected }.setPhase id (.asking rejected (.queued c.started))

/-- Tells a result to a caller if it waits in a queue. -/
def tell (result : Except RefreshError String) (g : Gateway σ) (id : CallId) : Gateway σ :=
  match g.calls[id]? with
  | some ⟨_, .asking rejected (.queued _)⟩ => g.setPhase id (.asking rejected (.told result))
  | _ => g

variable [Store σ]

/-- A caller reads the session before it takes the lock. -/
def readFor (id : CallId) (rejected : String) (settledBefore : Nat) (g : Gateway σ) : Gateway σ :=
  let (outcome, store) := Store.get g.store
  let g := { g with store := store }
  match outcome with
  | .ok current => g.setPhase id (.asking rejected (.seen settledBefore current))
  | .failed message => g.setPhase id (.asking rejected (.told (.error (.store message))))
  | .panicked => g.finish id .panicked

/-- A request reads the session it will be sent under, and sends its first attempt. -/
def openRequest (id : CallId) (d : Descriptor) (g : Gateway σ) : Gateway σ :=
  let (outcome, store) := Store.get g.store
  let g := { g with store := store }
  match outcome with
  | .ok none => g.fail id .notAuthenticated
  | .ok (some session) => g.attempt id d session.accessToken (.first session.accessToken)
  | .failed message => g.fail id (.internal message)
  | .panicked => g.finish id .panicked

/-- What a caller does with the result of its question for a fresh token: a request sends its second
attempt, or ends the session if there is no token. -/
def useResult (id : CallId) (purpose : Purpose) (rejected : String)
    (result : Except RefreshError String) (g : Gateway σ) : Gateway σ :=
  match purpose, result with
  | .token _, result => g.finish id (.token result)
  | .request d _, .ok token => g.attempt id d token (.second token)
  | .request _ _, .error e => g.setPhase id (.expiring rejected e.message)

/-- Ends the session that holds `token`, if it does. -/
def invalidate (token reason : String) (g : Gateway σ) : Outcome Bool × Gateway σ :=
  let (outcome, invalidator, store) := g.invalidator.invalidate token reason g.store
  (outcome, { g with invalidator := invalidator, store := store })

/-- A request ends as expired, and ends the session with it. -/
def expireSession (id : CallId) (token reason : String) (g : Gateway σ) : Gateway σ :=
  match g.invalidate token reason with
  | (.panicked, g) => g.finish id .panicked
  | (_, g) => g.fail id .sessionExpired

/-- A caller takes its next step, if it has one of its own. -/
def advance (id : CallId) (g : Gateway σ) : Gateway σ :=
  match g.calls[id]? with
  | none => g
  | some call =>
    match call.purpose, call.phase with
    | .request d _, .opening => g.openRequest id d
    | _, .asking rejected .entering =>
      g.setPhase id (.asking rejected (.counted g.coordinator.settled))
    | _, .asking rejected (.counted settled) => g.readFor id rejected settled
    | _, .asking rejected (.seen settled current) => g.decideFor id rejected settled current
    | purpose, .asking rejected (.told result) => g.useResult id purpose rejected result
    | _, .expiring token reason => g.expireSession id token reason
    | _, _ => g

/-! ## Refresh cycles -/

/-- Moves the task of a cycle to a stage. -/
def setStage (number : Nat) (stage : Stage) (g : Gateway σ) : Gateway σ :=
  { g with coordinator := g.coordinator.setStage number stage }

/-- A cycle reads the session and sends its request. -/
def beginExchange (number : Nat) (g : Gateway σ) : Gateway σ :=
  let (outcome, store) := Store.get g.store
  let g := { g with store := store }
  match outcome with
  | .panicked => g.setStage number (.settling (.error .aborted))
  | .failed message => g.setStage number (.failing (.store message))
  | .ok none => g.setStage number (.failing .noSession)
  | .ok (some session) =>
    match session.refreshToken with
    | none => g.setStage number (.failing .missingRefreshToken)
    | some refreshToken =>
      match g.root.refreshUrl with
      | .error e => g.setStage number (.failing e)
      | .ok url =>
        let request := Request.refresh url refreshToken
        (g.setStage number (.exchanging session request)).note
          (.exchange number refreshToken request)

/-- A cycle stores the renewed session. -/
def storeRenewed (number : Nat) (renewed : Session) (g : Gateway σ) : Gateway σ :=
  let (outcome, store) := Store.set renewed g.store
  let g := { g with store := store }
  match outcome with
  | .ok () => g.setStage number (.settling (.ok renewed.accessToken))
  | .failed message => g.setStage number (.failing (.store message))
  | .panicked => g.setStage number (.settling (.error .aborted))

/-- A failed cycle ends the session whose refusal started it. -/
def endFailed (number : Nat) (rejected : String) (e : RefreshError) (g : Gateway σ) : Gateway σ :=
  match g.invalidate rejected e.message with
  | (.panicked, g) => g.setStage number (.settling (.error .aborted))
  | (_, g) => g.setStage number (.settling (.error e))

/-- A cycle ends and tells its result to everyone in the queue. The callers are told after the lock
is released, and that this is one step loses nothing. Nobody joins the queue any more, and telling
reads and changes nothing but the phase of the caller who is told. So a caller that gives up before
it is told might as well have given up before the release, and whatever else anyone does meanwhile
might as well come after the telling. -/
def settle (number : Nat) (result : Except RefreshError String) (g : Gateway σ) : Gateway σ :=
  let queue := g.coordinator.queue
  let g := { g with coordinator := g.coordinator.settle number }
  (queue.foldl (tell result) g).note (.settled number queue result)

/-- The task of a cycle takes its next step, if it has one of its own. -/
def advanceCycle (number : Nat) (g : Gateway σ) : Gateway σ :=
  match g.coordinator.cycle? number with
  | none => g
  | some cycle =>
    match cycle.stage with
    | .reading => g.beginExchange number
    | .exchanging _ _ => g
    | .storing renewed => g.storeRenewed number renewed
    | .failing e => g.endFailed number cycle.rejected e
    | .settling result => g.settle number result

/-- Delivers the answer to the request of a cycle. -/
def deliverRefresh (number : Nat) (d : Delivery) (g : Gateway σ) : Gateway σ :=
  match g.coordinator.cycle? number with
  | some ⟨_, _, .exchanging session request⟩ =>
    match d.tokens request.url with
    | .ok tokens => g.setStage number (.storing (tokens.renew session))
    | .error e => g.setStage number (.failing e)
  | _ => g

/-- The time limit of a cycle's exchange is reached, which breaks the exchange. -/
def expireRefresh (number : Nat) (g : Gateway σ) : Gateway σ :=
  g.deliverRefresh number .dropped

/-! ## The session -/

/-- Reads the current session. -/
def session (g : Gateway σ) : Outcome (Option Session) × Gateway σ :=
  let (outcome, store) := Store.get g.store
  (outcome, { g with store := store })

/-- Installs the session of a login. -/
def signIn (s : Session) (g : Gateway σ) : Outcome Unit × Gateway σ :=
  let (outcome, store) := Store.set s g.store
  (outcome, { g with store := store })

/-- Ends the current session because the user logs out. -/
def signOut (g : Gateway σ) : Outcome Bool × Gateway σ :=
  let (outcome, invalidator, store) := g.invalidator.signOut g.store
  (outcome, { g with invalidator := invalidator, store := store })

/-! ## Runs -/

/-- One step of anyone who has to do with a gateway. -/
inductive Action (σ : Type) where
  /-- A caller comes. -/
  | start (purpose : Purpose)
  /-- A caller takes its next step. -/
  | advance (id : CallId)
  /-- The task of a cycle takes its next step. -/
  | advanceCycle (number : Nat)
  /-- A caller's attempt is answered. -/
  | deliver (id : CallId) (d : Delivery)
  /-- The request of a cycle is answered. -/
  | deliverRefresh (number : Nat) (d : Delivery)
  /-- A caller's time budget is used up. -/
  | expire (id : CallId)
  /-- The time limit of a cycle's exchange is reached. -/
  | expireRefresh (number : Nat)
  /-- A caller is given up. -/
  | abandon (id : CallId)
  /-- A login installs a session. -/
  | signIn (s : Session)
  /-- The user logs out. -/
  | signOut
  /-- Someone asks to end the session that holds a token. -/
  | invalidate (token reason : String)
  /-- Something else happens to the store. -/
  | disturb (change : σ → σ)

/-- The gateway after a step. -/
def step (g : Gateway σ) : Action σ → Gateway σ
  | .start purpose => g.start purpose
  | .advance id => g.advance id
  | .advanceCycle number => g.advanceCycle number
  | .deliver id d => g.deliver id d
  | .deliverRefresh number d => g.deliverRefresh number d
  | .expire id => g.expire id
  | .expireRefresh number => g.expireRefresh number
  | .abandon id => g.abandon id
  | .signIn s => (g.signIn s).2
  | .signOut => g.signOut.2
  | .invalidate token reason => (g.invalidate token reason).2
  | .disturb change => { g with store := change g.store }

/-- The gateway after a run of steps. -/
def run (g : Gateway σ) (actions : List (Action σ)) : Gateway σ := actions.foldl step g

end Gateway

end BearerClient
