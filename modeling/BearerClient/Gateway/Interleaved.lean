import BearerClient.Gateway

/-!
# Endings that others come between

In a gateway every attempt to end the session is one step. It is really up to three: whoever has the
lock of the one who ends sessions looks at the session, clears the store and tells of it. The lock
keeps out other attempts to end the session, but not a login, nor a cycle that stores its renewed
session. Here these steps are taken one by one, and anyone may come between them. What the steps do
is the same, and so an ending that nobody comes between is the one step of the gateway. A single call
of the store stays one step, as stores keep their own callers apart.
-/

namespace BearerClient

/-- Who wants the session to be ended. -/
inductive Asker where
  /-- The user, by logging out. -/
  | user
  /-- Someone past the gateway. -/
  | outsider
  /-- A request that ends as expired. -/
  | caller (id : CallId)
  /-- The task of a cycle that has failed. -/
  | cycle (number : Nat) (e : RefreshError)

/-- An order to end the session. -/
structure EndOrder where
  /-- Who gives it. -/
  asker : Asker
  /-- The access token that the session must hold, if only one with that token is meant. -/
  rejected : Option String
  /-- What is told when the session has been ended. -/
  event : SessionEvent

namespace Gateway

variable {σ : Type}

/-- The order to end the session that an action gives, if it gives one. -/
def endOrder? (g : Gateway σ) : Action σ → Option EndOrder
  | .signOut => some ⟨.user, none, .signedOut⟩
  | .invalidate token reason => some ⟨.outsider, some token, .expired reason⟩
  | .advance id =>
    match g.calls[id]?.map Call.phase with
    | some (.expiring token reason) => some ⟨.caller id, some token, .expired reason⟩
    | _ => none
  | .advanceCycle number =>
    match g.coordinator.cycle? number with
    | some ⟨_, rejected, .failing e⟩ => some ⟨.cycle number e, some rejected, .expired e.message⟩
    | _ => none
  | _ => none

/-- The gateway with the lock and the store as someone has left them. -/
def leftBy (i : Invalidator) (store : σ) (g : Gateway σ) : Gateway σ :=
  { g with invalidator := i, store := store }

/-- Whoever has ordered the end of the session goes on, knowing how it went: a request ends as
expired, and a cycle goes on to tell its failure, if they have not broken down over it. -/
def conclude (outcome : Outcome Bool) (g : Gateway σ) : Asker → Gateway σ
  | .user | .outsider => g
  | .caller id =>
    g.finish id (if outcome = .panicked then .panicked else .payload (.error .sessionExpired))
  | .cycle number e =>
    g.setStage number (.settling (.error (if outcome = .panicked then .aborted else e)))

end Gateway

/-- How far someone has come who has the lock. -/
inductive Holding where
  /-- It has looked, has seen this session or none, and is about to clear the store. -/
  | clearing (seen : Option Session)
  /-- It has cleared the store and is about to tell. -/
  | telling

/-- The lock of the one who ends sessions, while someone has it. -/
structure Hold where
  /-- The order that is being carried out. -/
  order : EndOrder
  /-- How far this has come. -/
  progress : Holding

/-- A gateway in which others may come between the steps of an ending. -/
structure Interleaved (σ : Type) where
  /-- The gateway. -/
  gateway : Gateway σ
  /-- Who has the lock, if someone has it. -/
  hold : Option Hold

namespace Interleaved

/-- What anyone does next. -/
inductive Turn (σ : Type) where
  /-- Someone takes a step. An order to end the session waits until the lock is free. -/
  | act (a : Gateway.Action σ)
  /-- Whoever has the lock goes on. -/
  | goOn

variable {σ : Type} [Store σ]

/-- A gateway that nobody has called yet. -/
def new (root : ApiRoot) (store : σ) : Interleaved σ := ⟨.new root store, none⟩

/-- Takes the lock and looks at the session. -/
def look (order : EndOrder) (d : Interleaved σ) : Interleaved σ :=
  match d.gateway.invalidator.look order.rejected d.gateway.store with
  | (.stops outcome, i, store) => ⟨(d.gateway.leftBy i store).conclude outcome order.asker, none⟩
  | (.found seen, i, store) => ⟨d.gateway.leftBy i store, some ⟨order, .clearing seen⟩⟩

/-- Clears the store. If no session was seen, there is nothing to be told. -/
def clear (order : EndOrder) (seen : Option Session) (d : Interleaved σ) : Interleaved σ :=
  match d.gateway.invalidator.clear d.gateway.store with
  | (.panicked, i, store) => ⟨(d.gateway.leftBy i store).conclude .panicked order.asker, none⟩
  | (.failed message, i, store) =>
    ⟨(d.gateway.leftBy i store).conclude (.failed message) order.asker, none⟩
  | (.ok (), i, store) =>
    if seen.isSome then ⟨d.gateway.leftBy i store, some ⟨order, .telling⟩⟩
    else ⟨(d.gateway.leftBy i store).conclude (.ok false) order.asker, none⟩

/-- Tells that the session has been ended. -/
def tell (order : EndOrder) (d : Interleaved σ) : Interleaved σ :=
  ⟨(d.gateway.leftBy (d.gateway.invalidator.tell (some order.event)) d.gateway.store).conclude
    (.ok true) order.asker, none⟩

/-- The gateway after a turn. -/
def step (d : Interleaved σ) : Turn σ → Interleaved σ
  | .act a =>
    match d.gateway.endOrder? a with
    | none => { d with gateway := d.gateway.step a }
    | some order => if d.hold.isSome then d else d.look order
  | .goOn =>
    match d.hold with
    | none => d
    | some ⟨order, .clearing seen⟩ => d.clear order seen
    | some ⟨order, .telling⟩ => d.tell order

/-- The gateway after a run of turns. -/
def run (d : Interleaved σ) (turns : List (Turn σ)) : Interleaved σ := turns.foldl step d

end Interleaved

end BearerClient
