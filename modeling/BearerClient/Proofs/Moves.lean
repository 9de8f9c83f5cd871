import BearerClient.Gateway

/-!
# What a step can do

Every step of a gateway is one of ten kinds of moves, and `Move` lists for each kind the guards
under which it happens and the gateway it leads to. Most moves take one caller from a phase to the
next (`Walk`) or the task of one cycle from a stage to the next (`Work`); the others are the ones in
which the queue, the lock of the coordinator or the one who ends sessions has a part. The main
statement is `move_step`. Invariants are proved by cases on the move and never open a step again.
-/

namespace BearerClient

/-- Whether a notice is about the work of a caller, and not about a queue or a cycle. -/
def Notice.concernsCall : Notice → Bool
  | .attempt _ _ _ | .answered _ _ | .finished _ _ => true
  | _ => false

namespace Gateway

variable {σ : Type}

/-! ## The parts of a gateway -/

/-- The phase of a caller, if there is such a caller. -/
def phase? (g : Gateway σ) (id : CallId) : Option Phase := g.calls[id]?.map Call.phase

/-- The gateway after a caller has gone on to a phase, with the store as it is left and the notices
that were made, the latest first. -/
def moved (id : CallId) (phase : Phase) (store : σ) (notices : List Notice) (g : Gateway σ) :
    Gateway σ :=
  { g.setPhase id phase with store := store, log := notices ++ g.log }

/-- The gateway after the task of a cycle has gone on to a stage. -/
def worked (number : Nat) (stage : Stage) (store : σ) (notices : List Notice) (g : Gateway σ) :
    Gateway σ :=
  { g.setStage number stage with store := store, log := notices ++ g.log }

/-- The gateway with another state of the coordinator. -/
def coordinatedBy (c : Coordinator) (g : Gateway σ) : Gateway σ := { g with coordinator := c }

section Parts

variable (g : Gateway σ) (id : CallId) (phase : Phase) (store : σ) (notices : List Notice)

@[simp] theorem moved_root : (g.moved id phase store notices).root = g.root := rfl

@[simp] theorem moved_store : (g.moved id phase store notices).store = store := rfl

@[simp] theorem moved_invalidator :
    (g.moved id phase store notices).invalidator = g.invalidator := rfl

@[simp] theorem moved_coordinator :
    (g.moved id phase store notices).coordinator = g.coordinator := rfl

@[simp] theorem moved_log : (g.moved id phase store notices).log = notices ++ g.log := rfl

@[simp] theorem moved_calls : (g.moved id phase store notices).calls =
    g.calls.modify id fun call => { call with phase := phase } := rfl

variable (number : Nat) (stage : Stage)

@[simp] theorem worked_root : (g.worked number stage store notices).root = g.root := rfl

@[simp] theorem worked_store : (g.worked number stage store notices).store = store := rfl

@[simp] theorem worked_invalidator :
    (g.worked number stage store notices).invalidator = g.invalidator := rfl

@[simp] theorem worked_coordinator :
    (g.worked number stage store notices).coordinator = g.coordinator.setStage number stage := rfl

@[simp] theorem worked_log : (g.worked number stage store notices).log = notices ++ g.log := rfl

@[simp] theorem worked_calls : (g.worked number stage store notices).calls = g.calls := rfl

variable (c : Coordinator)

@[simp] theorem coordinatedBy_root : (g.coordinatedBy c).root = g.root := rfl

@[simp] theorem coordinatedBy_store : (g.coordinatedBy c).store = g.store := rfl

@[simp] theorem coordinatedBy_invalidator :
    (g.coordinatedBy c).invalidator = g.invalidator := rfl

@[simp] theorem coordinatedBy_coordinator : (g.coordinatedBy c).coordinator = c := rfl

@[simp] theorem coordinatedBy_log : (g.coordinatedBy c).log = g.log := rfl

@[simp] theorem coordinatedBy_calls : (g.coordinatedBy c).calls = g.calls := rfl

end Parts

/-! ## Callers -/

/-- What becomes of an attempt under an access token: it is sent, and its caller is in the phase
`next`, or it cannot be, and the call ends. -/
inductive Attempted (root : ApiRoot) (id : CallId) (d : Descriptor) (token : String)
    (next : Request → Phase) : Phase → List Notice → Prop where
  /-- The attempt is sent. -/
  | sent {request : Request} (hbuild : Request.build root d token = .ok request)
      (hsend : request.url.isSendable = true) :
      Attempted root id d token next (next request) [.attempt id token request]
  /-- The request cannot be built. -/
  | unbuilt {message : String} {answer : Answer}
      (hbuild : Request.build root d token = .error message)
      (hanswer : answer = .payload (.error (.internal message))) :
      Attempted root id d token next (.ended answer) [.finished id answer]
  /-- The request cannot be addressed. -/
  | unaddressed {request : Request} {answer : Answer}
      (hbuild : Request.build root d token = .ok request) (hsend : request.url.isSendable = false)
      (hanswer : answer =
        .payload (.error (TransportError.unsupported request.url.text).toGatewayError)) :
      Attempted root id d token next (.ended answer) [.finished id answer]

theorem attempted (id : CallId) (d : Descriptor) (token : String) (next : Request → Phase)
    (g : Gateway σ) : ∃ phase notices, Attempted g.root id d token next phase notices ∧
      g.attempt id d token next = g.moved id phase g.store notices := by
  unfold attempt
  split
  · rename_i message hbuild
    exact ⟨_, _, .unbuilt hbuild rfl, rfl⟩
  · rename_i request hbuild
    split
    · rename_i hsend
      exact ⟨_, _, .sent hbuild hsend, rfl⟩
    · rename_i hsend
      exact ⟨_, _, .unaddressed hbuild (by simpa using hsend) rfl, rfl⟩

variable [Store σ]

/-- How a caller goes on in an action that concerns neither the queue nor the one who ends sessions:
to which phase, how it leaves the store, and what is noticed. -/
inductive Walk (g : Gateway σ) (id : CallId) :
    Call → Action σ → Phase → σ → List Notice → Prop where
  /-- A request finds nobody logged in. -/
  | findsNone {d : Descriptor} {shape : Shape} {answer : Answer}
      (hget : (Store.get g.store).1 = .ok none)
      (hanswer : answer = .payload (.error .notAuthenticated)) :
      Walk g id ⟨.request d shape, .opening⟩ (.advance id) (.ended answer) (Store.get g.store).2
        [.finished id answer]
  /-- A request takes the access token of the session for its first attempt. -/
  | opens {d : Descriptor} {shape : Shape} {session : Session} {phase : Phase}
      {notices : List Notice} (hget : (Store.get g.store).1 = .ok (some session))
      (hattempt : Attempted g.root id d session.accessToken (.first session.accessToken) phase
        notices) :
      Walk g id ⟨.request d shape, .opening⟩ (.advance id) phase (Store.get g.store).2 notices
  /-- A request cannot read the session. -/
  | cannotOpen {d : Descriptor} {shape : Shape} {message : String} {answer : Answer}
      (hget : (Store.get g.store).1 = .failed message)
      (hanswer : answer = .payload (.error (.internal message))) :
      Walk g id ⟨.request d shape, .opening⟩ (.advance id) (.ended answer) (Store.get g.store).2
        [.finished id answer]
  /-- A request breaks down over reading the session. -/
  | breaksOpening {d : Descriptor} {shape : Shape} (hget : (Store.get g.store).1 = .panicked) :
      Walk g id ⟨.request d shape, .opening⟩ (.advance id) (.ended .panicked)
        (Store.get g.store).2 [.finished id .panicked]
  /-- A caller looks at the count of settled cycles. -/
  | counts {purpose : Purpose} {rejected : String} :
      Walk g id ⟨purpose, .asking rejected .entering⟩ (.advance id)
        (.asking rejected (.counted g.coordinator.settled)) g.store []
  /-- A caller reads the session before it takes the lock. -/
  | reads {purpose : Purpose} {rejected : String} {settled : Nat} {current : Option Session}
      (hget : (Store.get g.store).1 = .ok current) :
      Walk g id ⟨purpose, .asking rejected (.counted settled)⟩ (.advance id)
        (.asking rejected (.seen settled current)) (Store.get g.store).2 []
  /-- A caller cannot read the session. -/
  | cannotRead {purpose : Purpose} {rejected message : String} {settled : Nat}
      (hget : (Store.get g.store).1 = .failed message) :
      Walk g id ⟨purpose, .asking rejected (.counted settled)⟩ (.advance id)
        (.asking rejected (.told (.error (.store message)))) (Store.get g.store).2 []
  /-- A caller breaks down over reading the session. -/
  | breaksReading {purpose : Purpose} {rejected : String} {settled : Nat}
      (hget : (Store.get g.store).1 = .panicked) :
      Walk g id ⟨purpose, .asking rejected (.counted settled)⟩ (.advance id) (.ended .panicked)
        (Store.get g.store).2 [.finished id .panicked]
  /-- A caller with the lock learns that a cycle has settled since it looked. -/
  | looksAgain {purpose : Purpose} {rejected : String} {settled : Nat} {current : Option Session}
      (hidle : g.coordinator.flight = none) (hsettled : g.coordinator.settled ≠ settled) :
      Walk g id ⟨purpose, .asking rejected (.seen settled current)⟩ (.advance id)
        (.asking rejected .entering) g.store []
  /-- A caller with the lock has found no session. -/
  | isRefused {purpose : Purpose} {rejected : String} {settled : Nat}
      (hidle : g.coordinator.flight = none) (hsettled : g.coordinator.settled = settled) :
      Walk g id ⟨purpose, .asking rejected (.seen settled none)⟩ (.advance id)
        (.asking rejected (.told (.error .noSession))) g.store []
  /-- A caller with the lock has found a token other than the refused one. -/
  | reuses {purpose : Purpose} {rejected : String} {settled : Nat} {session : Session}
      (hidle : g.coordinator.flight = none) (hsettled : g.coordinator.settled = settled)
      (htoken : session.accessToken ≠ rejected) :
      Walk g id ⟨purpose, .asking rejected (.seen settled (some session))⟩ (.advance id)
        (.asking rejected (.told (.ok session.accessToken))) g.store []
  /-- A caller that only asked for a token passes on what it was told. -/
  | passesOn {asked rejected : String} {result : Except RefreshError String} {answer : Answer}
      (hanswer : answer = .token result) :
      Walk g id ⟨.token asked, .asking rejected (.told result)⟩ (.advance id) (.ended answer)
        g.store [.finished id answer]
  /-- A request that was told a token takes it for its second attempt. -/
  | retries {d : Descriptor} {shape : Shape} {rejected token : String} {phase : Phase}
      {notices : List Notice}
      (hattempt : Attempted g.root id d token (.second token) phase notices) :
      Walk g id ⟨.request d shape, .asking rejected (.told (.ok token))⟩ (.advance id) phase g.store
        notices
  /-- A request that was told a failure is about to end the session. -/
  | gives {d : Descriptor} {shape : Shape} {rejected : String} {e : RefreshError} :
      Walk g id ⟨.request d shape, .asking rejected (.told (.error e))⟩ (.advance id)
        (.expiring rejected e.message) g.store []
  /-- An attempt is not answered completely. -/
  | isCutOff {d : Descriptor} {shape : Shape} {phase : Phase} {request : Request}
      {delivery : Delivery} {e : TransportError} {answer : Answer}
      (hphase : Call.outstanding? ⟨.request d shape, phase⟩ = some request)
      (hresponse : delivery.response? request.url = .error e)
      (hanswer : answer = .payload (.error e.toGatewayError)) :
      Walk g id ⟨.request d shape, phase⟩ (.deliver id delivery) (.ended answer) g.store
        [.finished id answer]
  /-- The token of a first attempt is refused. -/
  | isRejected {d : Descriptor} {shape : Shape} {token : String} {request : Request}
      {delivery : Delivery} {response : Response}
      (hresponse : delivery.response? request.url = .ok response)
      (hrefused : response.isUnauthorized = true) :
      Walk g id ⟨.request d shape, .first token request⟩ (.deliver id delivery)
        (.asking token .entering) g.store [.answered id response.status]
  /-- The token of a second attempt is refused. -/
  | isRejectedAgain {d : Descriptor} {shape : Shape} {token : String} {request : Request}
      {delivery : Delivery} {response : Response}
      (hresponse : delivery.response? request.url = .ok response)
      (hrefused : response.isUnauthorized = true) :
      Walk g id ⟨.request d shape, .second token request⟩ (.deliver id delivery)
        (.expiring token refusedAgain) g.store [.answered id response.status]
  /-- An attempt is answered without a refusal of its token. -/
  | isAnswered {d : Descriptor} {shape : Shape} {phase : Phase} {request : Request}
      {delivery : Delivery} {response : Response} {answer : Answer}
      (hphase : Call.outstanding? ⟨.request d shape, phase⟩ = some request)
      (hresponse : delivery.response? request.url = .ok response)
      (haccepted : response.isUnauthorized = false)
      (hanswer : answer = .payload (response.classify shape.decode)) :
      Walk g id ⟨.request d shape, phase⟩ (.deliver id delivery) (.ended answer) g.store
        [.finished id answer, .answered id response.status]
  /-- The time budget of a request's wait is used up. -/
  | timesOut {d : Descriptor} {shape : Shape} {phase : Phase} {answer : Answer}
      (hwaits : Call.isWaiting ⟨.request d shape, phase⟩ = true)
      (hanswer : answer = .payload (.error (.timeout d.timeoutMs))) :
      Walk g id ⟨.request d shape, phase⟩ (.expire id) (.ended answer) g.store
        [.finished id answer]
  /-- A waiting caller is given up. -/
  | isGivenUp {call : Call} (hwaits : call.isWaiting = true) :
      Walk g id call (.abandon id) .abandoned g.store []

theorem Attempted.concernsCall {root : ApiRoot} {id : CallId} {d : Descriptor} {token : String}
    {next : Request → Phase} {phase : Phase} {notices : List Notice}
    (h : Attempted root id d token next phase notices) :
    ∀ notice ∈ notices, notice.concernsCall = true := by
  cases h <;> simp [Notice.concernsCall]

/-- Walking is noticed only as the work of a caller. -/
theorem Walk.concernsCall {g : Gateway σ} {id : CallId} {call : Call} {a : Action σ} {phase : Phase}
    {store : σ} {notices : List Notice} (h : Walk g id call a phase store notices) :
    ∀ notice ∈ notices, notice.concernsCall = true := by
  cases h with
  | opens _ hattempt => exact hattempt.concernsCall
  | retries hattempt => exact hattempt.concernsCall
  | _ => simp [Notice.concernsCall]

/-! ## Cycles -/

/-- An action that answers the request of a cycle, or breaks it off at its time limit. -/
def Answers (number : Nat) (a : Action σ) (delivery : Delivery) : Prop :=
  a = .deliverRefresh number delivery ∨ (a = .expireRefresh number ∧ delivery = .dropped)

/-- How the task of a cycle goes on in an action that does not concern the one who ends sessions: to
which stage, how it leaves the store, and what is noticed. -/
inductive Work (g : Gateway σ) (cycle : Cycle) : Action σ → Stage → σ → List Notice → Prop where
  /-- The task breaks down over reading the session. -/
  | breaksReading (hstage : cycle.stage = .reading) (hget : (Store.get g.store).1 = .panicked) :
      Work g cycle (.advanceCycle cycle.number) (.settling (.error .aborted))
        (Store.get g.store).2 []
  /-- The task cannot read the session. -/
  | cannotRead {message : String} (hstage : cycle.stage = .reading)
      (hget : (Store.get g.store).1 = .failed message) :
      Work g cycle (.advanceCycle cycle.number) (.failing (.store message)) (Store.get g.store).2 []
  /-- There is no session any more. -/
  | findsNone (hstage : cycle.stage = .reading) (hget : (Store.get g.store).1 = .ok none) :
      Work g cycle (.advanceCycle cycle.number) (.failing .noSession) (Store.get g.store).2 []
  /-- The session has no refresh token. -/
  | lacksToken {session : Session} (hstage : cycle.stage = .reading)
      (hget : (Store.get g.store).1 = .ok (some session)) (htoken : session.refreshToken = none) :
      Work g cycle (.advanceCycle cycle.number) (.failing .missingRefreshToken)
        (Store.get g.store).2 []
  /-- Nothing can be sent to the address of the refresh exchange. -/
  | lacksAddress {session : Session} {refreshToken : String} {e : RefreshError}
      (hstage : cycle.stage = .reading) (hget : (Store.get g.store).1 = .ok (some session))
      (htoken : session.refreshToken = some refreshToken) (hurl : g.root.refreshUrl = .error e) :
      Work g cycle (.advanceCycle cycle.number) (.failing e) (Store.get g.store).2 []
  /-- The request that exchanges the refresh token of the session is sent. -/
  | sends {session : Session} {refreshToken : String} {url : Url} {request : Request}
      (hstage : cycle.stage = .reading) (hget : (Store.get g.store).1 = .ok (some session))
      (htoken : session.refreshToken = some refreshToken) (hurl : g.root.refreshUrl = .ok url)
      (hrequest : request = Request.refresh url refreshToken) :
      Work g cycle (.advanceCycle cycle.number) (.exchanging session request) (Store.get g.store).2
        [.exchange cycle.number refreshToken request]
  /-- The answer holds tokens. -/
  | receives {a : Action σ} {delivery : Delivery} {session : Session} {request : Request}
      {tokens : Tokens} (hstage : cycle.stage = .exchanging session request)
      (ha : Answers cycle.number a delivery) (htokens : delivery.tokens request.url = .ok tokens) :
      Work g cycle a (.storing (tokens.renew session)) g.store []
  /-- The answer holds no tokens. -/
  | receivesNone {a : Action σ} {delivery : Delivery} {session : Session} {request : Request}
      {e : RefreshError} (hstage : cycle.stage = .exchanging session request)
      (ha : Answers cycle.number a delivery) (htokens : delivery.tokens request.url = .error e) :
      Work g cycle a (.failing e) g.store []
  /-- The renewed session is stored. -/
  | stores {renewed : Session} (hstage : cycle.stage = .storing renewed)
      (hset : (Store.set renewed g.store).1 = .ok ()) :
      Work g cycle (.advanceCycle cycle.number) (.settling (.ok renewed.accessToken))
        (Store.set renewed g.store).2 []
  /-- The renewed session cannot be stored. -/
  | cannotStore {renewed : Session} {message : String} (hstage : cycle.stage = .storing renewed)
      (hset : (Store.set renewed g.store).1 = .failed message) :
      Work g cycle (.advanceCycle cycle.number) (.failing (.store message))
        (Store.set renewed g.store).2 []
  /-- The task breaks down over storing the renewed session. -/
  | breaksStoring {renewed : Session} (hstage : cycle.stage = .storing renewed)
      (hset : (Store.set renewed g.store).1 = .panicked) :
      Work g cycle (.advanceCycle cycle.number) (.settling (.error .aborted))
        (Store.set renewed g.store).2 []

/-! ## All moves -/

/-- What happens to the store and to the one who ends sessions from outside. -/
inductive Touch (g : Gateway σ) : Action σ → Gateway σ → Prop where
  /-- A login. -/
  | signsIn (s : Session) : Touch g (.signIn s) (g.signIn s).2
  /-- A logout. -/
  | signsOut : Touch g .signOut g.signOut.2
  /-- Someone asks to end the session that holds a token. -/
  | invalidates (token reason : String) :
      Touch g (.invalidate token reason) (g.invalidate token reason).2
  /-- Something else happens to the store. -/
  | disturbs (change : σ → σ) : Touch g (.disturb change) { g with store := change g.store }

/-- What a step can do. -/
inductive Move (g : Gateway σ) : Action σ → Gateway σ → Prop where
  /-- The action does not apply. -/
  | idles (a : Action σ) : Move g a g
  /-- A caller comes. -/
  | comes (purpose : Purpose) : Move g (.start purpose) (g.start purpose)
  /-- A caller goes on by itself or with an answer. -/
  | walks {a : Action σ} {id : CallId} {call : Call} {phase : Phase} {store : σ}
      {notices : List Notice} (hcall : g.calls[id]? = some call)
      (hwalk : Walk g id call a phase store notices) :
      Move g a (g.moved id phase store notices)
  /-- A caller queues on the running cycle. -/
  | joins {id : CallId} {purpose : Purpose} {rejected : String} {settled : Nat}
      {current : Option Session} {flight : Flight}
      (hcall : g.calls[id]? = some ⟨purpose, .asking rejected (.seen settled current)⟩)
      (hflight : g.coordinator.flight = some flight) :
      Move g (.advance id)
        ((g.moved id (.asking rejected (.queued flight.cycle)) g.store
          [.joined id flight.cycle (flight.queue.length + 1)]).coordinatedBy
            (g.coordinator.join id))
  /-- A caller starts a cycle and queues on it. -/
  | begins {id : CallId} {purpose : Purpose} {rejected : String} {session : Session}
      (hcall : g.calls[id]? =
        some ⟨purpose, .asking rejected (.seen g.coordinator.settled (some session))⟩)
      (hidle : g.coordinator.flight = none) (htoken : session.accessToken = rejected) :
      Move g (.advance id)
        ((g.moved id (.asking rejected (.queued g.coordinator.started)) g.store []).coordinatedBy
          (g.coordinator.start id rejected))
  /-- A request ends the session, and ends with it. -/
  | expires {id : CallId} {purpose : Purpose} {token reason : String} {answer : Answer}
      (hcall : g.calls[id]? = some ⟨purpose, .expiring token reason⟩)
      (hanswer : answer = if (g.invalidate token reason).1 = .panicked then .panicked
        else .payload (.error .sessionExpired)) :
      Move g (.advance id)
        ((g.invalidate token reason).2.moved id (.ended answer) (g.invalidate token reason).2.store
          [.finished id answer])
  /-- The task of a cycle goes on by itself or with an answer. -/
  | works {a : Action σ} {cycle : Cycle} {stage : Stage} {store : σ} {notices : List Notice}
      (hcycle : g.coordinator.cycle? cycle.number = some cycle)
      (hwork : Work g cycle a stage store notices) :
      Move g a (g.worked cycle.number stage store notices)
  /-- A failed cycle ends the session whose refusal started it. -/
  | fails {cycle : Cycle} {e : RefreshError} {result : Except RefreshError String}
      (hcycle : g.coordinator.cycle? cycle.number = some cycle) (hstage : cycle.stage = .failing e)
      (hresult : result = if (g.invalidate cycle.rejected e.message).1 = .panicked then
        .error .aborted else .error e) :
      Move g (.advanceCycle cycle.number)
        ((g.invalidate cycle.rejected e.message).2.setStage cycle.number (.settling result))
  /-- A cycle tells its result to everyone in the queue. -/
  | settles {cycle : Cycle} {result : Except RefreshError String}
      (hcycle : g.coordinator.cycle? cycle.number = some cycle)
      (hstage : cycle.stage = .settling result) :
      Move g (.advanceCycle cycle.number) (g.settle cycle.number result)
  /-- The session is changed from outside. -/
  | touches {a : Action σ} {g' : Gateway σ} (htouch : Touch g a g') : Move g a g'

/-- What happens from outside concerns neither the callers nor the coordinator. -/
theorem Touch.frame {g g' : Gateway σ} {a : Action σ} (h : Touch g a g') :
    g'.root = g.root ∧ g'.coordinator = g.coordinator ∧ g'.calls = g.calls ∧ g'.log = g.log := by
  cases h <;> exact ⟨rfl, rfl, rfl, rfl⟩

/-! ## Every step is a move -/

theorem number_of_cycle? {c : Coordinator} {number : Nat} {cycle : Cycle}
    (h : c.cycle? number = some cycle) : cycle.number = number := by
  simpa using List.find?_some h

theorem move_openRequest {g : Gateway σ} {id : CallId} {d : Descriptor} {shape : Shape}
    (hcall : g.calls[id]? = some ⟨.request d shape, .opening⟩) :
    Move g (.advance id) (g.openRequest id d) := by
  unfold openRequest
  rcases hget : Store.get g.store with ⟨outcome, store⟩
  have hstore : store = (Store.get g.store).2 := by rw [hget]
  have houtcome : (Store.get g.store).1 = outcome := by rw [hget]
  subst hstore
  match outcome with
  | .ok none => exact .walks hcall (.findsNone houtcome rfl)
  | .ok (some session) =>
    obtain ⟨phase, notices, hattempt, heq⟩ := attempted id d session.accessToken
      (.first session.accessToken) { g with store := (Store.get g.store).2 }
    simp only [heq]
    exact .walks hcall (.opens houtcome hattempt)
  | .failed message => exact .walks hcall (.cannotOpen houtcome rfl)
  | .panicked => exact .walks hcall (.breaksOpening houtcome)

theorem move_readFor {g : Gateway σ} {id : CallId} {purpose : Purpose} {rejected : String}
    {settled : Nat} (hcall : g.calls[id]? = some ⟨purpose, .asking rejected (.counted settled)⟩) :
    Move g (.advance id) (g.readFor id rejected settled) := by
  unfold readFor
  rcases hget : Store.get g.store with ⟨outcome, store⟩
  have hstore : store = (Store.get g.store).2 := by rw [hget]
  have houtcome : (Store.get g.store).1 = outcome := by rw [hget]
  subst hstore
  match outcome with
  | .ok current => exact .walks hcall (.reads houtcome)
  | .failed message => exact .walks hcall (.cannotRead houtcome)
  | .panicked => exact .walks hcall (.breaksReading houtcome)

theorem move_decideFor {g : Gateway σ} {id : CallId} {purpose : Purpose} {rejected : String}
    {settled : Nat} {current : Option Session}
    (hcall : g.calls[id]? = some ⟨purpose, .asking rejected (.seen settled current)⟩) :
    Move g (.advance id) (g.decideFor id rejected settled current) := by
  cases hflight : g.coordinator.flight with
  | some flight =>
    have hdecide : g.coordinator.decide rejected settled current = .join := by
      simp [Coordinator.decide, hflight]
    have hqueue : g.coordinator.queue = flight.queue := by simp [Coordinator.queue, hflight]
    simp only [decideFor, hdecide, hflight, hqueue, Option.map_some, Option.getD_some]
    exact .joins hcall hflight
  | none =>
    by_cases hsettled : g.coordinator.settled = settled
    · match current with
      | none =>
        have hdecide : g.coordinator.decide rejected settled none = .give (.error .noSession) := by
          simp [Coordinator.decide, hflight, hsettled]
        simp only [decideFor, hdecide]
        exact .walks hcall (.isRefused hflight hsettled)
      | some session =>
        by_cases htoken : session.accessToken = rejected
        · have hdecide : g.coordinator.decide rejected settled (some session) = .start := by
            simp [Coordinator.decide, hflight, hsettled, htoken]
          simp only [decideFor, hdecide]
          subst hsettled
          exact .begins hcall hflight htoken
        · have hdecide : g.coordinator.decide rejected settled (some session) =
              .give (.ok session.accessToken) := by
            simp [Coordinator.decide, hflight, hsettled, htoken]
          simp only [decideFor, hdecide]
          exact .walks hcall (.reuses hflight hsettled htoken)
    · have hdecide : g.coordinator.decide rejected settled current = .again := by
        simp [Coordinator.decide, hflight, hsettled]
      simp only [decideFor, hdecide]
      exact .walks hcall (.looksAgain hflight hsettled)

theorem move_useResult {g : Gateway σ} {id : CallId} {purpose : Purpose} {rejected : String}
    {result : Except RefreshError String}
    (hcall : g.calls[id]? = some ⟨purpose, .asking rejected (.told result)⟩) :
    Move g (.advance id) (g.useResult id purpose rejected result) := by
  match purpose, result with
  | .token _, result => exact .walks hcall (.passesOn rfl)
  | .request d _, .ok token =>
    obtain ⟨phase, notices, hattempt, heq⟩ := attempted id d token (.second token) g
    simp only [useResult, heq]
    exact .walks hcall (.retries hattempt)
  | .request _ _, .error e => exact .walks hcall .gives

/-- A request that ends the session ends with it, unless it breaks down over that. -/
theorem expireSession_eq (g : Gateway σ) (id : CallId) (token reason : String) :
    ∃ answer, answer = (if (g.invalidate token reason).1 = .panicked then .panicked
        else .payload (.error .sessionExpired)) ∧
      g.expireSession id token reason = (g.invalidate token reason).2.moved id (.ended answer)
        (g.invalidate token reason).2.store [.finished id answer] := by
  unfold expireSession
  rcases g.invalidate token reason with ⟨outcome, after⟩
  cases outcome with
  | panicked => exact ⟨_, rfl, rfl⟩
  | ok => exact ⟨_, rfl, rfl⟩
  | failed => exact ⟨_, rfl, rfl⟩

theorem step_of_expiring {g : Gateway σ} {id : CallId} {purpose : Purpose} {token reason : String}
    (hcall : g.calls[id]? = some ⟨purpose, .expiring token reason⟩) :
    ∃ answer, answer = (if (g.invalidate token reason).1 = .panicked then .panicked
        else .payload (.error .sessionExpired)) ∧
      g.step (.advance id) = (g.invalidate token reason).2.moved id (.ended answer)
        (g.invalidate token reason).2.store [.finished id answer] := by
  obtain ⟨answer, hanswer, hends⟩ := g.expireSession_eq id token reason
  refine ⟨answer, hanswer, ?_⟩
  rw [← hends]
  simp only [step, advance, hcall]

theorem move_expireSession {g : Gateway σ} {id : CallId} {purpose : Purpose}
    {token reason : String} (hcall : g.calls[id]? = some ⟨purpose, .expiring token reason⟩) :
    Move g (.advance id) (g.expireSession id token reason) := by
  obtain ⟨answer, hanswer, hends⟩ := g.expireSession_eq id token reason
  rw [hends]
  exact .expires hcall hanswer

theorem move_advance (g : Gateway σ) (id : CallId) : Move g (.advance id) (g.advance id) := by
  unfold advance
  split
  · exact .idles _
  · rename_i call hcall
    obtain ⟨purpose, phase⟩ := call
    split
    · rename_i hpurpose hphase
      cases hpurpose
      cases hphase
      exact move_openRequest hcall
    · rename_i hphase
      cases hphase
      exact .walks hcall .counts
    · rename_i hphase
      cases hphase
      exact move_readFor hcall
    · rename_i hphase
      cases hphase
      exact move_decideFor hcall
    · rename_i hphase
      cases hphase
      exact move_useResult hcall
    · rename_i hphase
      cases hphase
      exact move_expireSession hcall
    · exact .idles _

theorem move_beginExchange {g : Gateway σ} {cycle : Cycle}
    (hcycle : g.coordinator.cycle? cycle.number = some cycle) (hstage : cycle.stage = .reading) :
    Move g (.advanceCycle cycle.number) (g.beginExchange cycle.number) := by
  unfold beginExchange
  rcases hget : Store.get g.store with ⟨outcome, store⟩
  have hstore : store = (Store.get g.store).2 := by rw [hget]
  have houtcome : (Store.get g.store).1 = outcome := by rw [hget]
  subst hstore
  match outcome with
  | .panicked => exact .works hcycle (.breaksReading hstage houtcome)
  | .failed message => exact .works hcycle (.cannotRead hstage houtcome)
  | .ok none => exact .works hcycle (.findsNone hstage houtcome)
  | .ok (some session) =>
    cases htoken : session.refreshToken with
    | none =>
      simp only [htoken]
      exact .works hcycle (.lacksToken hstage houtcome htoken)
    | some refreshToken =>
      cases hurl : g.root.refreshUrl with
      | error e =>
        simp only [htoken, hurl]
        exact .works hcycle (.lacksAddress hstage houtcome htoken hurl)
      | ok url =>
        simp only [htoken, hurl]
        exact .works hcycle (.sends hstage houtcome htoken hurl rfl)

theorem move_storeRenewed {g : Gateway σ} {cycle : Cycle} {renewed : Session}
    (hcycle : g.coordinator.cycle? cycle.number = some cycle)
    (hstage : cycle.stage = .storing renewed) :
    Move g (.advanceCycle cycle.number) (g.storeRenewed cycle.number renewed) := by
  unfold storeRenewed
  rcases hset : Store.set renewed g.store with ⟨outcome, store⟩
  have hstore : store = (Store.set renewed g.store).2 := by rw [hset]
  have houtcome : (Store.set renewed g.store).1 = outcome := by rw [hset]
  subst hstore
  match outcome with
  | .ok () => exact .works hcycle (.stores hstage houtcome)
  | .failed message => exact .works hcycle (.cannotStore hstage houtcome)
  | .panicked => exact .works hcycle (.breaksStoring hstage houtcome)

/-- A failed cycle that ends the session tells its failure, unless it breaks down over that. -/
theorem endFailed_eq (g : Gateway σ) (number : Nat) (rejected : String) (e : RefreshError) :
    ∃ result, result = (if (g.invalidate rejected e.message).1 = .panicked then .error .aborted
        else .error e) ∧
      g.endFailed number rejected e =
        (g.invalidate rejected e.message).2.setStage number (.settling result) := by
  unfold endFailed
  rcases g.invalidate rejected e.message with ⟨outcome, after⟩
  cases outcome with
  | panicked => exact ⟨_, rfl, rfl⟩
  | ok => exact ⟨_, rfl, rfl⟩
  | failed => exact ⟨_, rfl, rfl⟩

theorem step_of_failing {g : Gateway σ} {number : Nat} {cycle : Cycle} {e : RefreshError}
    (hcycle : g.coordinator.cycle? number = some cycle) (hstage : cycle.stage = .failing e) :
    ∃ result, result = (if (g.invalidate cycle.rejected e.message).1 = .panicked then .error .aborted
        else .error e) ∧
      g.step (.advanceCycle number) =
        (g.invalidate cycle.rejected e.message).2.setStage number (.settling result) := by
  obtain ⟨result, hresult, hends⟩ := g.endFailed_eq number cycle.rejected e
  refine ⟨result, hresult, ?_⟩
  rw [← hends]
  simp only [step, advanceCycle, hcycle, hstage]

theorem move_endFailed {g : Gateway σ} {cycle : Cycle} {e : RefreshError}
    (hcycle : g.coordinator.cycle? cycle.number = some cycle) (hstage : cycle.stage = .failing e) :
    Move g (.advanceCycle cycle.number) (g.endFailed cycle.number cycle.rejected e) := by
  obtain ⟨result, hresult, hends⟩ := g.endFailed_eq cycle.number cycle.rejected e
  rw [hends]
  exact .fails hcycle hstage hresult

theorem move_advanceCycle (g : Gateway σ) (number : Nat) :
    Move g (.advanceCycle number) (g.advanceCycle number) := by
  unfold advanceCycle
  split
  · exact .idles _
  · rename_i cycle hcycle
    obtain rfl := number_of_cycle? hcycle
    split
    · rename_i hstage
      exact move_beginExchange hcycle hstage
    · exact .idles _
    · rename_i renewed hstage
      exact move_storeRenewed hcycle hstage
    · rename_i e hstage
      exact move_endFailed hcycle hstage
    · rename_i result hstage
      exact .settles hcycle hstage

theorem move_deliver (g : Gateway σ) (id : CallId) (d : Delivery) :
    Move g (.deliver id d) (g.deliver id d) := by
  unfold deliver takeAnswer
  split
  · rename_i shape token request hcall
    cases hresponse : d.response? request.url with
    | error e => exact .walks hcall (.isCutOff rfl hresponse rfl)
    | ok response =>
      cases hrefused : response.isUnauthorized with
      | true => simpa [hrefused] using! Move.walks hcall (.isRejected hresponse hrefused)
      | false => simpa [hrefused] using! Move.walks hcall (.isAnswered rfl hresponse hrefused rfl)
  · rename_i shape token request hcall
    cases hresponse : d.response? request.url with
    | error e => exact .walks hcall (.isCutOff rfl hresponse rfl)
    | ok response =>
      cases hrefused : response.isUnauthorized with
      | true => simpa [hrefused] using! Move.walks hcall (.isRejectedAgain hresponse hrefused)
      | false => simpa [hrefused] using! Move.walks hcall (.isAnswered rfl hresponse hrefused rfl)
  · exact .idles _

/-- An answer to the request of a cycle, or the breaking off of it, makes a move. -/
theorem move_deliverRefresh (g : Gateway σ) {number : Nat} {a : Action σ} {d : Delivery}
    (ha : Answers number a d) : Move g a (g.deliverRefresh number d) := by
  unfold deliverRefresh
  split
  · rename_i number' rejected session request hcycle
    obtain rfl : number' = number := number_of_cycle? hcycle
    cases htokens : d.tokens request.url with
    | ok tokens =>
      have hwork : Work g ⟨number', rejected, .exchanging session request⟩ a
          (.storing (tokens.renew session)) g.store [] := .receives rfl ha htokens
      exact .works hcycle hwork
    | error e =>
      have hwork : Work g ⟨number', rejected, .exchanging session request⟩ a
          (.failing e) g.store [] := .receivesNone rfl ha htokens
      exact .works hcycle hwork
  · exact .idles _

/-- Every step is a move. -/
theorem move_step (g : Gateway σ) (a : Action σ) : Move g a (g.step a) := by
  cases a with
  | start purpose => exact .comes purpose
  | advance id => exact move_advance g id
  | advanceCycle number => exact move_advanceCycle g number
  | deliver id d => exact move_deliver g id d
  | deliverRefresh number d => exact move_deliverRefresh g (.inl rfl)
  | expire id =>
    simp only [step, expire]
    split
    · rename_i d shape phase hcall
      split
      · rename_i hwaits
        exact .walks hcall (.timesOut hwaits rfl)
      · exact .idles _
    · exact .idles _
  | expireRefresh number => exact move_deliverRefresh g (.inr ⟨rfl, rfl⟩)
  | abandon id =>
    simp only [step, abandon]
    split
    · rename_i call hcall
      split
      · rename_i hwaits
        exact .walks hcall (.isGivenUp hwaits)
      · exact .idles _
    · exact .idles _
  | signIn s => exact .touches (.signsIn s)
  | signOut => exact .touches .signsOut
  | invalidate token reason => exact .touches (.invalidates token reason)
  | disturb change => exact .touches (.disturbs change)

/-! ## Runs -/

@[simp] theorem run_nil (g : Gateway σ) : g.run [] = g := rfl

@[simp] theorem run_cons (g : Gateway σ) (a : Action σ) (actions : List (Action σ)) :
    g.run (a :: actions) = (g.step a).run actions := rfl

theorem run_append (g : Gateway σ) (before later : List (Action σ)) :
    g.run (before ++ later) = (g.run before).run later := List.foldl_append

theorem run_concat (g : Gateway σ) (before : List (Action σ)) (a : Action σ) :
    g.run (before ++ [a]) = (g.run before).step a := run_append g before [a]

/-- What every move keeps holds after every run. -/
theorem run_keeps {P : Gateway σ → Prop} (hmove : ∀ g a g', P g → Move g a g' → P g')
    {g : Gateway σ} (hg : P g) (actions : List (Action σ)) : P (g.run actions) := by
  induction actions generalizing g with
  | nil => exact hg
  | cons a actions ih => exact ih (hmove g a _ hg (move_step g a))

end Gateway

end BearerClient
