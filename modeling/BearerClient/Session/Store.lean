import BearerClient.Session

/-!
# Session stores

A store is the home of the one current session. Every operation on it can fail with a message, or
break down without one; an operation that does either has changed nothing.
-/

namespace BearerClient

/-- How an operation ends. -/
inductive Outcome (α : Type) where
  /-- It gives a value. -/
  | ok (value : α)
  /-- It fails with a message. -/
  | failed (message : String)
  /-- It breaks down, and takes the task that called it with it. -/
  | panicked
  deriving DecidableEq, Repr

/-- A home for the current session. -/
class Store (σ : Type) where
  /-- Reads the session; none when nobody is logged in. -/
  get : σ → Outcome (Option Session) × σ
  /-- Puts a session in place of the current one. -/
  set : Session → σ → Outcome Unit × σ
  /-- Removes every part of the session. -/
  clear : σ → Outcome Unit × σ

/-! ## The store in memory -/

/-- A store that lives as long as the program. -/
structure Cell where
  /-- The current session. -/
  session : Option Session
  deriving DecidableEq, Repr

instance : Store Cell where
  get cell := (.ok cell.session, cell)
  set session _ := (.ok (), ⟨some session⟩)
  clear _ := (.ok (), ⟨none⟩)

/-! ## Stores that fail on demand -/

/-- An operation of a store. -/
inductive StoreOperation where
  /-- Reading. -/
  | get
  /-- Replacing. -/
  | set
  /-- Removing. -/
  | clear
  deriving DecidableEq, Repr

/-- A failure that waits for calls of one operation: some calls still succeed, then some fail. -/
structure Fault where
  /-- The operation that will fail. -/
  on : StoreOperation
  /-- How many calls succeed first. -/
  skip : Nat
  /-- How many calls fail then. -/
  times : Nat
  /-- The message of the failure. -/
  message : String
  /-- Whether the calls break down instead. -/
  panics : Bool
  deriving DecidableEq, Repr

/-- Lets one call of an operation pass by the queued faults: whether it is hit, and the faults left.
Only the first fault of the operation that is not used up counts the call. -/
def Fault.consult (operation : StoreOperation) : List Fault → Option Fault × List Fault
  | [] => (none, [])
  | fault :: rest =>
    if fault.on = operation ∧ 0 < fault.times then
      if 0 < fault.skip then (none, { fault with skip := fault.skip - 1 } :: rest)
      else (some fault, { fault with times := fault.times - 1 } :: rest)
    else
      let (hit, rest) := consult operation rest
      (hit, fault :: rest)

/-- How a call ends that a fault hits. -/
def Fault.outcome {α : Type} (fault : Fault) : Outcome α :=
  if fault.panics then .panicked else .failed fault.message

/-- A store with faults in front of it. -/
structure Rigged (σ : Type) where
  /-- The store behind the faults. -/
  inner : σ
  /-- The faults in the order in which they were queued. -/
  faults : List Fault

namespace Rigged

variable {σ : Type}

/-- Runs an operation unless a fault hits it. -/
def guarded {α : Type} (operation : StoreOperation) (run : σ → Outcome α × σ) (s : Rigged σ) :
    Outcome α × Rigged σ :=
  match Fault.consult operation s.faults with
  | (some fault, faults) => (fault.outcome, ⟨s.inner, faults⟩)
  | (none, faults) =>
    let (outcome, inner) := run s.inner
    (outcome, ⟨inner, faults⟩)

instance [Store σ] : Store (Rigged σ) where
  get := guarded .get Store.get
  set session := guarded .set (Store.set session)
  clear := guarded .clear Store.clear

end Rigged

end BearerClient
