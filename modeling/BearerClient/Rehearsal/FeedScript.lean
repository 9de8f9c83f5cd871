import BearerClient.Session.Invalidator

/-!
# Scripts for listeners

A script that ends sessions in a store in memory while named listeners come, read and go.
-/

namespace BearerClient.Rehearsal

/-- One step of a script for listeners. -/
inductive FeedCue where
  /-- Store a session. -/
  | set (s : Session)
  /-- Remove the session. -/
  | clear
  /-- End the session that holds a token. -/
  | invalidate (token reason : String)
  /-- Log out. -/
  | signOut
  /-- A listener comes, in place of the one of that name. -/
  | subscribe (name : String)
  /-- A listener goes. -/
  | leave (name : String)
  /-- A listener reads. -/
  | receive (name : String)
  /-- Something that is no step. -/
  | unknown

/-- The result of a step of a script for listeners. -/
inductive FeedResult where
  /-- It was done. -/
  | done
  /-- Yes or no. -/
  | flag (value : Bool)
  /-- It failed. -/
  | failed (message : String)
  /-- What a listener got. -/
  | received (r : Received)
  /-- There is no listener of that name. -/
  | noListener
  /-- The step is none. -/
  | unknown

/-- A store, the one who ends its sessions, and the listeners with how much each has seen. -/
structure FeedTrial where
  /-- The store. -/
  cell : Cell
  /-- The one who ends sessions. -/
  invalidator : Invalidator
  /-- The listeners. -/
  listeners : List (String × Nat)

namespace FeedTrial

/-- Nobody listens yet. -/
def new (s : Option Session) : FeedTrial := ⟨⟨s⟩, .new, []⟩

/-- The result of ending a session. -/
def resultOf : Outcome Bool → FeedResult
  | .ok value => .flag value
  | .failed message => .failed message
  | .panicked => .unknown

/-- The listeners without the one of a name. -/
def others (t : FeedTrial) (name : String) : List (String × Nat) :=
  t.listeners.filter (·.1 ≠ name)

/-- Takes a step of the script. -/
def play (t : FeedTrial) : FeedCue → FeedResult × FeedTrial
  | .set s =>
    let (outcome, cell) := Store.set s t.cell
    (.flag (outcome = .ok ()), { t with cell := cell })
  | .clear =>
    let (outcome, cell) := Store.clear t.cell
    (.flag (outcome = .ok ()), { t with cell := cell })
  | .invalidate token reason =>
    let (outcome, invalidator, cell) := t.invalidator.invalidate token reason t.cell
    (resultOf outcome, { t with invalidator := invalidator, cell := cell })
  | .signOut =>
    let (outcome, invalidator, cell) := t.invalidator.signOut t.cell
    (resultOf outcome, { t with invalidator := invalidator, cell := cell })
  | .subscribe name =>
    (.done, { t with listeners := (name, t.invalidator.feed.size) :: t.others name })
  | .leave name =>
    (.flag (t.listeners.lookup name).isSome, { t with listeners := t.others name })
  | .receive name =>
    match t.listeners.lookup name with
    | none => (.noListener, t)
    | some seen =>
      let (received, seen) := t.invalidator.feed.receive seen
      (.received received, { t with listeners := (name, seen) :: t.others name })
  | .unknown => (.unknown, t)

/-- Runs a script; gives the result of each step and the session after it. -/
def perform : FeedTrial → List FeedCue → List (FeedResult × Option Session)
  | _, [] => []
  | t, cue :: cues =>
    let (result, t) := t.play cue
    (result, t.cell.session) :: perform t cues

end FeedTrial

end BearerClient.Rehearsal
