import BearerClient.Gateway
import BearerClient.Http.Reply

/-!
# Rehearsals

A rehearsal runs a gateway against a stand-in for the backend, step by step. The stand-in holds
every request until the script answers it; where nothing listens, the connection is refused at once.
Between two steps of the script everything goes on until nobody can go on without an answer: cycles
first, then connections, then callers in the order of their arrival. A caller may be paused between
its reading of the store and its taking of the lock.
-/

namespace BearerClient

/-- A gateway in rehearsal. -/
structure Rehearsal (σ : Type) where
  /-- The gateway, over a store that fails on demand. -/
  gateway : Gateway (Rigged σ)
  /-- Where connections are accepted. -/
  listener : Option Url.Origin
  /-- The names of the callers, by number. -/
  names : List String
  /-- The callers that will stop once they have read the store for the first time. -/
  pausing : List CallId
  /-- The callers whose attempt will never be answered. -/
  unanswered : List CallId
  /-- The cycles whose request will never be answered. -/
  unansweredCycles : List Nat

namespace Rehearsal

variable {σ : Type}

/-- A rehearsal that has not begun. -/
def new (root : ApiRoot) (listener : Option Url.Origin) (store : σ) : Rehearsal σ where
  gateway := .new root ⟨store, []⟩
  listener := listener
  names := []
  pausing := []
  unanswered := []
  unansweredCycles := []

/-- The callers with their numbers. -/
def calls (r : Rehearsal σ) : List (Call × CallId) := r.gateway.calls.zipIdx

/-- The name of a caller. -/
def nameOf (r : Rehearsal σ) (id : CallId) : String := (r.names[id]?).getD ""

/-- The latest caller of a name. -/
def find? (r : Rehearsal σ) (name : String) : Option CallId :=
  (r.names.zipIdx.filter (·.1 = name)).getLast?.map (·.2)

/-- Whether a caller is paused. -/
def isPaused (r : Rehearsal σ) (call : Call) (id : CallId) : Bool :=
  match call.phase with
  | .asking _ (.seen _ _) => r.pausing.contains id
  | _ => false

/-- Whether a request goes where nothing listens. -/
def isRefused (r : Rehearsal σ) (request : Option Request) : Bool :=
  request.any (!·.url.reaches r.listener)

/-- The next step that is taken without an answer of the script. -/
def nextAction? (r : Rehearsal σ) : Option (Gateway.Action (Rigged σ)) :=
  let cycles := r.gateway.coordinator.cycles
  ((cycles.find? fun c => c.outstanding?.isNone).map fun c => .advanceCycle c.number) <|>
  ((cycles.find? fun c => r.isRefused c.outstanding?).map fun c =>
    .deliverRefresh c.number .refused) <|>
  ((r.calls.find? fun (call, _) => r.isRefused call.outstanding?).map fun (_, id) =>
    .deliver id .refused) <|>
  ((r.calls.find? fun (call, id) => call.isRunnable && !r.isPaused call id).map fun (_, id) =>
    .advance id)

variable [Store σ]

/-- Lets everything go on, for at most so many steps. -/
def settleWithin : Nat → Rehearsal σ → Rehearsal σ
  | 0, r => r
  | steps + 1, r =>
    match r.nextAction? with
    | none => r
    | some action => settleWithin steps { r with gateway := r.gateway.step action }

/-- A bound on the steps between two steps of the script. A caller takes at most ten steps of its
own for each cycle that settles meanwhile, and each caller starts at most one cycle in that time. -/
def stepBound (r : Rehearsal σ) : Nat := 10 * Nat.pow (r.gateway.calls.length + 2) 2

/-- Lets everything go on until nobody can. -/
def settle (r : Rehearsal σ) : Rehearsal σ := settleWithin r.stepBound r

/-- Takes a step of the gateway. -/
def act (action : Gateway.Action (Rigged σ)) (r : Rehearsal σ) : Rehearsal σ :=
  { r with gateway := r.gateway.step action }

/-- Changes the store itself, past the faults in front of it. -/
def changeStore (change : σ → σ) (r : Rehearsal σ) : Rehearsal σ :=
  r.act (.disturb fun s => { s with inner := change s.inner })

/-- What the store holds, past the faults in front of it. -/
def stored (r : Rehearsal σ) : Option Session :=
  match Store.get r.gateway.store.inner with
  | (.ok session, _) => session
  | _ => none

end Rehearsal

end BearerClient
