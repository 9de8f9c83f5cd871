/-!
# Session events

When a session ends, everyone who listens is told once and why. A feed keeps the last sixteen events
for its readers; a reader that falls further behind is told how many it has missed and goes on with
the oldest event that is kept.
-/

namespace BearerClient

/-- The end of a session. -/
inductive SessionEvent where
  /-- The backend does not accept the session any more. -/
  | expired (reason : String)
  /-- The user has logged out. -/
  | signedOut
  deriving DecidableEq, Repr

/-- All events so far, the oldest first. -/
structure Feed where
  /-- The events. -/
  events : List SessionEvent
  deriving DecidableEq, Repr

/-- How many events a feed keeps for its readers. -/
def Feed.capacity : Nat := 16

/-- What a reader gets. -/
inductive Received where
  /-- The next event. -/
  | event (e : SessionEvent)
  /-- The number of events that are no longer kept. -/
  | lagged (missed : Nat)
  /-- Nothing, for now. -/
  | nothing
  deriving DecidableEq, Repr

namespace Feed

/-- The feed before any event. -/
def empty : Feed := ⟨[]⟩

/-- Tells all readers of an event. -/
def publish (feed : Feed) (e : SessionEvent) : Feed := ⟨feed.events ++ [e]⟩

/-- The number of events so far; a reader that starts now starts here. -/
def size (feed : Feed) : Nat := feed.events.length

/-- What a reader that has seen `seen` events gets, and how many it has seen then. -/
def receive (feed : Feed) (seen : Nat) : Received × Nat :=
  if capacity < feed.size - seen then
    (.lagged (feed.size - seen - capacity), feed.size - capacity)
  else match feed.events[seen]? with
    | some e => (.event e, seen + 1)
    | none => (.nothing, seen)

/-- The events after the first `seen`. -/
def since (feed : Feed) (seen : Nat) : List SessionEvent := feed.events.drop seen

end Feed

end BearerClient
