import BearerClient.Rehearsal

/-!
# Scripts

The steps that a rehearsal can be told to take, and the report after each: its result, what the
session and the coordinator look like, who waits for what, and what happened since the last report.
-/

namespace BearerClient.Rehearsal

/-- One step of a script. Callers are called by name. -/
inductive Cue where
  /-- A request comes. -/
  | request (name : String) (d : Descriptor) (shape : Shape)
  /-- A question for a fresh token comes; the caller may pause after its first look at the store. -/
  | ask (name rejected : String) (pause : Bool)
  /-- A request comes that cannot even be described, since its method is none. -/
  | badMethod
  /-- A paused caller goes on. -/
  | resume (name : String)
  /-- A caller's attempt is answered. -/
  | reply (name : String) (reply : Reply)
  /-- The request of the running cycle is answered. -/
  | replyRefresh (reply : Reply)
  /-- A caller's time budget is used up. -/
  | wait (name : String)
  /-- The time limit of the running cycle is reached. -/
  | waitRefresh
  /-- A caller is given up. -/
  | cancel (name : String)
  /-- A login. -/
  | signIn (s : Session)
  /-- A logout. -/
  | signOut
  /-- The session is asked for. -/
  | session
  /-- The tenant is asked for. -/
  | tenant
  /-- Someone wants to end the session that holds a token. -/
  | invalidate (token reason : String)
  /-- The store gets a session behind everyone's back. -/
  | storeSet (s : Session)
  /-- The store loses its session behind everyone's back. -/
  | storeClear
  /-- The store will fail. -/
  | fault (fault : Fault)
  /-- The store will not fail any more. -/
  | mend
  /-- Something that is no step. -/
  | unknown

/-- The result of a step. -/
inductive CueResult where
  /-- It was done. -/
  | done
  /-- Yes or no. -/
  | flag (value : Bool)
  /-- A session, or that there is none. -/
  | session (value : Option Session)
  /-- A text, or that there is none. -/
  | text (value : Option String)
  /-- The session could not be read or changed. -/
  | failed (message : String)
  /-- The operation broke down. -/
  | panicked
  /-- The caller to resume is not paused. -/
  | notPaused
  /-- There is no request to answer. -/
  | nothingHeld
  /-- The method of the request is none. -/
  | badMethod
  /-- The step is none. -/
  | unknown

/-- What a step gives that ran an operation of the gateway. -/
def CueResult.ofOutcome {α : Type} (onOk : α → CueResult) : Outcome α → CueResult
  | .ok value => onOk value
  | .failed message => .failed message
  | .panicked => .panicked

/-- The situation after a step, and what has happened in it. -/
structure Report where
  /-- The step's own result. -/
  result : CueResult
  /-- What the store holds. -/
  session : Option Session
  /-- Whether a cycle is running. -/
  refreshing : Bool
  /-- How many cycles have been started. -/
  cycles : Nat
  /-- The names of the callers whose attempt is held, and of the refresh if it is. -/
  held : List String
  /-- The names of the callers in the queue of the running cycle. -/
  waiting : List String
  /-- The names of the paused callers. -/
  paused : List String
  /-- The requests that arrived, by name. -/
  sent : List (String × Request)
  /-- The answers that callers got, by name. -/
  done : List (String × Answer)
  /-- The sessions that ended. -/
  events : List SessionEvent
  /-- The callers that joined a running cycle, with the length of its queue then. -/
  joined : List (String × Nat)
  /-- The cycles that settled: the length of the queue, and whether there was a token. -/
  settled : List (Nat × Bool)

/-- The name under which the request of a cycle is reported. -/
def refreshName : String := "refresh"

/-- Sorts by name; what has the same name keeps its order. -/
def sortByName {α : Type} (entries : List (String × α)) : List (String × α) :=
  entries.mergeSort fun a b => !(b.1 < a.1)

/-- Sorts names. -/
def sortNames (names : List String) : List String := names.mergeSort fun a b => !(b < a)

variable {σ : Type}

/-- Whether a caller's attempt is held. -/
def isHeld (r : Rehearsal σ) (call : Call) (id : CallId) : Bool :=
  call.outstanding?.any (·.url.reaches r.listener) && !r.unanswered.contains id

/-- Whether the request of a cycle is held. -/
def isCycleHeld (r : Rehearsal σ) (cycle : Cycle) : Bool :=
  cycle.outstanding?.any (·.url.reaches r.listener) &&
    !r.unansweredCycles.contains cycle.number

/-- The names of the callers that satisfy `p`. -/
def namesWhere (p : Call → CallId → Bool) (r : Rehearsal σ) : List String :=
  (r.calls.filter fun (call, id) => p call id).map fun (_, id) => r.nameOf id

/-- What a notice says about a request that arrived. -/
def sentOf (r : Rehearsal σ) : Notice → Option (String × Request)
  | .attempt id _ request =>
    if request.url.reaches r.listener then some (r.nameOf id, request) else none
  | .exchange _ _ request =>
    if request.url.reaches r.listener then some (refreshName, request) else none
  | _ => none

/-- What a notice says about a caller that got its answer. -/
def doneOf (r : Rehearsal σ) : Notice → Option (String × Answer)
  | .finished id answer => some (r.nameOf id, answer)
  | _ => none

/-- What a notice says about a caller that joined a cycle. -/
def joinedOf (r : Rehearsal σ) : Notice → Option (String × Nat)
  | .joined id _ queued => some (r.nameOf id, queued)
  | _ => none

/-- What a notice says about a cycle that settled. -/
def settledOf : Notice → Option (Nat × Bool)
  | .settled _ queue (.ok _) => some (queue.length, true)
  | .settled _ queue (.error _) => some (queue.length, false)
  | _ => none

variable [Store σ]

/-- Answers the attempt of a caller, if it is held. -/
def replyTo (name : String) (reply : Reply) (r : Rehearsal σ) : CueResult × Rehearsal σ :=
  match r.find? name with
  | none => (.nothingHeld, r)
  | some id =>
    match r.gateway.calls[id]? with
    | none => (.nothingHeld, r)
    | some call =>
      match r.isHeld call id, call.outstanding? with
      | true, some request =>
        match reply.delivery? request.method with
        | some d => (.done, r.act (.deliver id d))
        | none => (.done, { r with unanswered := id :: r.unanswered })
      | _, _ => (.nothingHeld, r)

/-- Answers the request of the running cycle, if it is held. -/
def replyToRefresh (reply : Reply) (r : Rehearsal σ) : CueResult × Rehearsal σ :=
  match r.gateway.coordinator.cycles.find? r.isCycleHeld with
  | none => (.nothingHeld, r)
  | some cycle =>
    match reply.delivery? .post with
    | some d => (.done, r.act (.deliverRefresh cycle.number d))
    | none => (.done, { r with unansweredCycles := cycle.number :: r.unansweredCycles })

/-- Lets a paused caller go on. -/
def resumeCall (name : String) (r : Rehearsal σ) : CueResult × Rehearsal σ :=
  match r.find? name with
  | none => (.notPaused, r)
  | some id =>
    match r.gateway.calls[id]? with
    | none => (.notPaused, r)
    | some call =>
      if r.isPaused call id then
        (.done, { r with pausing := r.pausing.filter (· ≠ id) })
      else (.notPaused, r)

/-- Takes a step that concerns a caller, if there is one of that name. -/
def actOn (name : String) (action : CallId → Gateway.Action (Rigged σ)) (r : Rehearsal σ) :
    Rehearsal σ :=
  match r.find? name with
  | some id => r.act (action id)
  | none => r

/-- Adds a caller. -/
def addCaller (name : String) (purpose : Purpose) (pause : Bool) (r : Rehearsal σ) : Rehearsal σ :=
  let id := r.gateway.calls.length
  { r.act (.start purpose) with
    names := r.names ++ [name]
    pausing := if pause then id :: r.pausing else r.pausing }

/-- Takes a step of the script. -/
def play (r : Rehearsal σ) : Cue → CueResult × Rehearsal σ
  | .request name d shape => (.done, r.addCaller name (.request d shape) false)
  | .ask name rejected pause => (.done, r.addCaller name (.token rejected) pause)
  | .badMethod => (.badMethod, r)
  | .resume name => r.resumeCall name
  | .reply name reply => r.replyTo name reply
  | .replyRefresh reply => r.replyToRefresh reply
  | .wait name => (.done, r.actOn name .expire)
  | .waitRefresh =>
    match r.gateway.coordinator.cycles with
    | cycle :: _ => (.done, r.act (.expireRefresh cycle.number))
    | [] => (.done, r)
  | .cancel name => (.done, r.actOn name .abandon)
  | .signIn s =>
    let (outcome, g) := r.gateway.signIn s
    (.ofOutcome (fun _ => .done) outcome, { r with gateway := g })
  | .signOut =>
    let (outcome, g) := r.gateway.signOut
    (.ofOutcome .flag outcome, { r with gateway := g })
  | .session =>
    let (outcome, g) := r.gateway.session
    (.ofOutcome .session outcome, { r with gateway := g })
  | .tenant =>
    let (outcome, g) := r.gateway.session
    (.ofOutcome (fun s => .text (s.bind Session.tenantId)) outcome, { r with gateway := g })
  | .invalidate token reason =>
    let (outcome, g) := r.gateway.invalidate token reason
    (.ofOutcome .flag outcome, { r with gateway := g })
  | .storeSet s => (.done, r.changeStore fun store => (Store.set s store).2)
  | .storeClear => (.done, r.changeStore fun store => (Store.clear store).2)
  | .fault f => (.done, r.act (.disturb fun s => { s with faults := s.faults ++ [f] }))
  | .mend => (.done, r.act (.disturb fun s => { s with faults := [] }))
  | .unknown => (.unknown, r)

/-- The report on a step, given the rehearsal before it. -/
def report (before : Rehearsal σ) (result : CueResult) (r : Rehearsal σ) : Report :=
  let notices := (r.gateway.log.take (r.gateway.log.length - before.gateway.log.length)).reverse
  let cycles := r.gateway.coordinator.cycles
  { result := result
    session := r.stored
    refreshing := r.gateway.coordinator.isRefreshing
    cycles := r.gateway.coordinator.started
    held := sortNames
      (r.namesWhere r.isHeld ++ (cycles.filter r.isCycleHeld).map fun _ => refreshName)
    waiting := sortNames (r.namesWhere fun call _ => call.isQueued)
    paused := sortNames (r.namesWhere r.isPaused)
    sent := sortByName (notices.filterMap r.sentOf)
    done := sortByName (notices.filterMap r.doneOf)
    events := r.gateway.invalidator.feed.since before.gateway.invalidator.feed.size
    joined := notices.filterMap r.joinedOf
    settled := notices.filterMap settledOf }

/-- Runs a script; gives the report on each step. -/
def perform : Rehearsal σ → List Cue → List Report
  | _, [] => []
  | r, cue :: cues =>
    let (result, played) := r.play cue
    let settled := played.settle
    report r result settled :: perform settled cues

end BearerClient.Rehearsal
