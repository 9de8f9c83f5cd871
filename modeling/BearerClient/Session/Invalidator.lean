import BearerClient.Session.Event
import BearerClient.Session.Store

/-!
# Ending sessions

A session is ended when the user logs out, or when the backend has refused its access token for
good. A refusal ends only the session that still holds the refused token: one that was stored
meanwhile is left alone. Each session that ends causes one event.

Looking at the session, removing it and telling of it are three steps under one lock. The lock keeps
out everyone else who wants to end a session, but nobody who puts one in the store. A store that
breaks down inside leaves the lock unusable, and from then on no session can be ended.
-/

namespace BearerClient

/-- The lock and the feed of the one who ends sessions. -/
structure Invalidator where
  /-- Whether the lock is unusable. -/
  poisoned : Bool
  /-- Where the ends of sessions are told. -/
  feed : Feed
  deriving DecidableEq, Repr

namespace Invalidator

variable {σ : Type} [Store σ]

/-- An invalidator that has not ended any session. -/
def new : Invalidator := ⟨false, .empty⟩

/-- The message of a lock that is unusable. -/
def poisonedMessage : String := "invalidator lock poisoned"

/-- What a look at the session comes to. -/
inductive Look where
  /-- There is nothing to be done any more, with this outcome. -/
  | stops (outcome : Outcome Bool)
  /-- The store is to be cleared. -/
  | found (seen : Option Session)

/-- Looks at the session. If an access token `rejected` is given, another one is let alone. Without a
session the store is to be cleared all the same, in case parts of one are left in it. -/
def look (rejected : Option String) (i : Invalidator) (store : σ) : Look × Invalidator × σ :=
  if i.poisoned then (.stops (.failed poisonedMessage), i, store)
  else match Store.get store with
    | (.panicked, store) => (.stops .panicked, { i with poisoned := true }, store)
    | (.failed message, store) => (.stops (.failed message), i, store)
    | (.ok none, store) => (.found none, i, store)
    | (.ok (some current), store) =>
      if rejected.any (· ≠ current.accessToken) then (.stops (.ok false), i, store)
      else (.found (some current), i, store)

/-- Clears the store. -/
def clear (i : Invalidator) (store : σ) : Outcome Unit × Invalidator × σ :=
  match Store.clear store with
  | (.panicked, store) => (.panicked, { i with poisoned := true }, store)
  | (.failed message, store) => (.failed message, i, store)
  | (.ok (), store) => (.ok (), i, store)

/-- Tells the event, if there is one. -/
def tell (event : Option SessionEvent) (i : Invalidator) : Invalidator :=
  { i with feed := event.elim i.feed i.feed.publish }

/-- Clears the store and gives `value`; if that succeeds the event, if any, is told. -/
def clearWith (value : Bool) (event : Option SessionEvent) (i : Invalidator) (store : σ) :
    Outcome Bool × Invalidator × σ :=
  match i.clear store with
  | (.panicked, i, store) => (.panicked, i, store)
  | (.failed message, i, store) => (.failed message, i, store)
  | (.ok (), i, store) => (.ok value, i.tell event, store)

/-- Ends the current session, or only the one with the access token `rejected` if that is given, with
nobody coming in between. Gives whether a session was ended. -/
def endSession (rejected : Option String) (event : SessionEvent) (i : Invalidator) (store : σ) :
    Outcome Bool × Invalidator × σ :=
  match i.look rejected store with
  | (.stops outcome, i, store) => (outcome, i, store)
  | (.found none, i, store) => i.clearWith false none store
  | (.found (some _), i, store) => i.clearWith true (some event) store

/-- Ends the session whose access token was refused for good. -/
def invalidate (rejected reason : String) (i : Invalidator) (store : σ) :
    Outcome Bool × Invalidator × σ :=
  i.endSession (some rejected) (.expired reason) store

/-- Ends the session because the user logs out. -/
def signOut (i : Invalidator) (store : σ) : Outcome Bool × Invalidator × σ :=
  i.endSession none .signedOut store

end Invalidator

end BearerClient
