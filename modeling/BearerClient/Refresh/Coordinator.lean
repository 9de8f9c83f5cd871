import BearerClient.Error
import BearerClient.Http.Request
import BearerClient.Session

/-!
# Coordinating refreshes

When an access token is refused, many callers learn it at about the same time, and a refresh token
may be good for one use only. So the callers share one refresh cycle: the first one starts it, the
others queue on it, and all of them get its result. A cycle is a task of its own; a caller that
gives up leaves its place in the queue and does not disturb it.

The state is behind a lock, but a caller reads the session store before it takes the lock. The count
of settled cycles tells it whether what it read may be stale by then.
-/

namespace BearerClient

/-- The number of a caller, in order of arrival. -/
abbrev CallId := Nat

/-- How far the task of a refresh cycle has come. -/
inductive Stage where
  /-- It is about to read the session. -/
  | reading
  /-- It waits for the answer to its request; the session is the one it read. -/
  | exchanging (session : Session) (request : Request)
  /-- It has tokens and is about to store the session renewed with them. -/
  | storing (renewed : Session)
  /-- It has failed and is about to end the session. -/
  | failing (e : RefreshError)
  /-- It is about to tell its result. -/
  | settling (result : Except RefreshError String)

/-- The task of a refresh cycle. -/
structure Cycle where
  /-- The number of the cycle; the first one is zero. -/
  number : Nat
  /-- The access token whose refusal started the cycle. -/
  rejected : String
  /-- How far the task has come. -/
  stage : Stage

/-- The request that the task waits for the answer to. -/
def Cycle.outstanding? (cycle : Cycle) : Option Request :=
  match cycle.stage with
  | .exchanging _ request => some request
  | _ => none

/-- The queue on the running cycle. -/
structure Flight where
  /-- The number of the cycle. -/
  cycle : Nat
  /-- The callers in the order in which they joined, those that have given up included. -/
  queue : List CallId
  deriving DecidableEq, Repr

/-- The state that the callers share. -/
structure Coordinator where
  /-- The running cycle, if there is one. -/
  flight : Option Flight
  /-- How many cycles have been started. -/
  started : Nat
  /-- How many cycles have been settled. -/
  settled : Nat
  /-- The tasks that are alive. -/
  cycles : List Cycle

namespace Coordinator

/-- The state before any refresh. -/
def idle : Coordinator := ⟨none, 0, 0, []⟩

/-- Whether a cycle is running. -/
def isRefreshing (c : Coordinator) : Bool := c.flight.isSome

/-- What a caller does once it holds the lock. -/
inductive Decision where
  /-- It queues on the running cycle. -/
  | join
  /-- It looks at the store again, since a cycle has settled after it looked. -/
  | again
  /-- It goes on with a result at once. -/
  | give (result : Except RefreshError String)
  /-- It starts a cycle and queues on it. -/
  | start

/-- Decides for a caller whose token `rejected` was refused, who read `current` from the store when
`settledBefore` cycles were settled. A different token in the store is one that a cycle or a login
has put there since, so it is used without another exchange. -/
def decide (c : Coordinator) (rejected : String) (settledBefore : Nat)
    (current : Option Session) : Decision :=
  if c.flight.isSome then .join
  else if c.settled ≠ settledBefore then .again
  else match current with
    | none => .give (.error .noSession)
    | some session =>
      if session.accessToken = rejected then .start else .give (.ok session.accessToken)

/-- Queues a caller on the running cycle. -/
def join (id : CallId) (c : Coordinator) : Coordinator :=
  { c with flight := c.flight.map fun f => { f with queue := f.queue ++ [id] } }

/-- Starts a cycle with a first caller. -/
def start (id : CallId) (rejected : String) (c : Coordinator) : Coordinator :=
  { c with
    flight := some ⟨c.started, [id]⟩
    started := c.started + 1
    cycles := c.cycles ++ [⟨c.started, rejected, .reading⟩] }

/-- The task of a cycle, if it is alive. -/
def cycle? (c : Coordinator) (number : Nat) : Option Cycle := c.cycles.find? (·.number = number)

/-- Moves the task of a cycle to a stage. -/
def setStage (number : Nat) (stage : Stage) (c : Coordinator) : Coordinator :=
  { c with
    cycles := c.cycles.map fun k => if k.number = number then { k with stage := stage } else k }

/-- The callers that wait for the next result. -/
def queue (c : Coordinator) : List CallId := (c.flight.map Flight.queue).getD []

/-- Ends the task of a cycle: nothing is running any more, and one more cycle is settled. -/
def settle (number : Nat) (c : Coordinator) : Coordinator :=
  { c with
    flight := none
    settled := c.settled + 1
    cycles := c.cycles.filter (·.number ≠ number) }

end Coordinator

end BearerClient
