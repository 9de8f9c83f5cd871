import BearerClient.Proofs.SessionTable
import BearerClient.Session.Invalidator

/-!
# Logging out of a table

A logout reads the session before it removes it. So it takes more than a table whose rows may be
deleted: a row of the session that holds bytes stops the reading, and with it the logout, although
removing the rows would not need to know what they hold. `Rows.obstacle?` is the row where reading
stops. Without an access token nothing else is read, and whatever is left of a session is cleared
away. The main statement is `logout_of_table`.
-/

namespace BearerClient

namespace Rows

/-- Whether the row of a key, if there is one, holds bytes. -/
def holdsBytes (rows : Rows) (key : String) : Bool :=
  (rows.find? key).any fun row => row.value.text?.isNone

/-- The key at which reading the session stops: if there is an access token at all, the first of the
three keys whose row holds bytes. -/
def obstacle? (rows : Rows) : Option String :=
  if (rows.find? Database.accessKey).isSome then Database.sessionKeys.find? rows.holdsBytes
  else none

theorem holdsBytes_eq_false {rows : Rows} {key : String} :
    rows.holdsBytes key = false ↔
      ∀ row, rows.find? key = some row → row.value.text?.isSome = true := by
  unfold holdsBytes
  cases rows.find? key with
  | none => simp
  | some row => simp [Option.isSome_iff_ne_none]

/-- The obstacle is the first of the three rows; or there is an access token, and it is one of the
others. -/
theorem obstacle?_cases {rows : Rows} {key : String} (h : rows.obstacle? = some key) :
    (key = Database.accessKey ∧ rows.holdsBytes Database.accessKey = true) ∨
    ∃ access, rows.text? Database.accessKey = some access ∧
      rows.holdsBytes Database.accessKey = false ∧
      ((key = Database.refreshKey ∧ rows.holdsBytes Database.refreshKey = true) ∨
        (key = Database.tenantKey ∧ rows.holdsBytes Database.refreshKey = false ∧
          rows.holdsBytes Database.tenantKey = true)) := by
  unfold obstacle? at h
  split at h
  · rename_i haccess
    simp only [Database.sessionKeys, List.find?_cons, List.find?_nil] at h
    cases hfirst : rows.holdsBytes Database.accessKey with
    | true =>
      rw [hfirst] at h
      exact .inl ⟨(Option.some.inj h).symm, rfl⟩
    | false =>
      obtain ⟨row, hrow⟩ := Option.isSome_iff_exists.mp haccess
      obtain ⟨access, htext⟩ :=
        Option.isSome_iff_exists.mp (holdsBytes_eq_false.mp hfirst row hrow)
      have hread : rows.text? Database.accessKey = some access := by rw [text?, hrow]; exact htext
      refine .inr ⟨access, hread, rfl, ?_⟩
      rw [hfirst] at h
      cases hsecond : rows.holdsBytes Database.refreshKey with
      | true =>
        rw [hsecond] at h
        exact .inl ⟨(Option.some.inj h).symm, rfl⟩
      | false =>
        rw [hsecond] at h
        cases hthird : rows.holdsBytes Database.tenantKey with
        | true =>
          rw [hthird] at h
          exact .inr ⟨(Option.some.inj h).symm, rfl, rfl⟩
        | false =>
          rw [hthird] at h
          cases h
  · cases h

theorem isText_iff {rows : Rows} : rows.IsText ↔ rows.obstacle? = none := by
  unfold IsText obstacle?
  cases (rows.find? Database.accessKey).isSome with
  | false => simp
  | true =>
    rw [if_pos rfl, List.find?_eq_none]
    constructor
    · intro htext key hkey
      rw [holdsBytes_eq_false.mpr (htext rfl key hkey)]
      exact Bool.false_ne_true
    · intro hnone _ key hkey
      exact holdsBytes_eq_false.mp (Bool.eq_false_iff.mpr (hnone key hkey))

/-- Rows that can be read make a session exactly if there is an access token among them. -/
theorem isSome_session {rows : Rows} (htext : rows.IsText) :
    rows.session.isSome = (rows.find? Database.accessKey).isSome := by
  rw [session, Option.isSome_map, text?]
  cases hrow : rows.find? Database.accessKey with
  | none => rfl
  | some row => exact htext (by rw [hrow]; rfl) Database.accessKey List.mem_cons_self row hrow

end Rows

namespace Database

/-- What is told when the row under a key cannot be read. -/
def readFailure (key : String) : String := "Failed to read session key: " ++ key

theorem readKey_eq {db : Database} {rows : Rows} (hrows : db.rows = some rows) (key : String) :
    db.readKey key =
      if rows.holdsBytes key = true then .error (readFailure key) else .ok (rows.text? key) := by
  rw [Rows.holdsBytes, Rows.text?]
  simp only [readKey, hrows]
  cases rows.find? key with
  | none => rfl
  | some row =>
    obtain ⟨_, value, _⟩ := row
    cases value with
    | text value => rfl
    | blob bytes => rfl

/-- Reading the session stops at the first row that holds bytes. -/
theorem session_of_obstacle? {db : Database} {rows : Rows} (hrows : db.rows = some rows)
    {key : String} (h : rows.obstacle? = some key) : db.session = .error (readFailure key) := by
  simp only [session, readKey_eq hrows]
  rcases Rows.obstacle?_cases h with ⟨rfl, hfirst⟩ | ⟨access, haccess, hfirst, h⟩
  · rw [hfirst]
    rfl
  · rw [hfirst, haccess]
    rcases h with ⟨rfl, hsecond⟩ | ⟨rfl, hsecond, hthird⟩
    · rw [hsecond]
      rfl
    · rw [hsecond, hthird]
      rfl

end Database

namespace OpenDatabase

variable {s : OpenDatabase} {rows : Rows}

/-- A row that stops the reading stops the logout. -/
theorem signOut_of_obstacle? (hrows : s.database.rows = some rows) {key : String}
    (h : rows.obstacle? = some key) {i : Invalidator} (hlock : i.poisoned = false) :
    i.signOut s = (.failed (Database.readFailure key), i, s) := by
  have hget : Store.get s = (.failed (Database.readFailure key), s) := by
    simp only [Store.get, Database.session_of_obstacle? hrows h]
  simp only [Invalidator.signOut, Invalidator.endSession, Invalidator.look, hlock, hget]
  rfl

/-- A logout from rows that can be read and deleted clears them away, and tells of it if there was
an access token. -/
theorem signOut_of_isText (hrows : s.database.rows = some rows) (hwritable : s.isWritable = true)
    (hallowed : Database.sessionKeys.any (fun key => s.database.refuses rows (key, none)) = false)
    (htext : rows.IsText) {i : Invalidator} (hlock : i.poisoned = false) :
    i.signOut s =
      (.ok (rows.find? Database.accessKey).isSome,
        { i with feed := if (rows.find? Database.accessKey).isSome then i.feed.publish .signedOut
                         else i.feed },
        { s with database := { s.database with rows := some rows.others } }) := by
  have hget : Store.get s = (.ok rows.session, s) := by
    simp only [Store.get, Database.session_of_isText hrows htext]
  have hclear := clear_eq hrows hwritable
  rw [hallowed, if_neg Bool.false_ne_true] at hclear
  rw [← Rows.isSome_session htext]
  simp only [Invalidator.signOut, Invalidator.endSession, Invalidator.look, hlock, hget]
  cases rows.session with
  | none => simp [Invalidator.clearWith, Invalidator.clear, Invalidator.tell, hclear, hlock]
  | some current => simp [Invalidator.clearWith, Invalidator.clear, Invalidator.tell, hclear, hlock]

/-- A logout from a table whose rows may be deleted, whatever they hold.

* It succeeds exactly if there is no access token, or the rows of the session all hold texts.
* If it succeeds, it gives whether there was an access token, and one event is told exactly in that
  case. No row of the session is left, and the rows of other keys are as before.
* If it fails, it names the first row that holds bytes, and nothing has changed; so it fails again
  for as long as that row stays. -/
theorem logout_of_table (rows : Rows) (undeletable unwritable : List String) (now : String)
    (i : Invalidator) (hlock : i.poisoned = false)
    (hdeletes : ∀ key ∈ Database.sessionKeys, key ∉ undeletable) :
    let store : OpenDatabase := ⟨⟨some rows, undeletable, unwritable⟩, now, true⟩
    ((∃ ended, (i.signOut store).1 = .ok ended) ↔
      ((rows.find? Database.accessKey).isSome = true → ∀ key ∈ Database.sessionKeys,
        ∀ row, rows.find? key = some row → ∃ text, row.value = .text text)) ∧
    (∀ ended, (i.signOut store).1 = .ok ended →
      (ended = true ↔ (rows.find? Database.accessKey).isSome = true) ∧
      (i.signOut store).2.1.feed.events =
        i.feed.events ++ (if ended then [.signedOut] else []) ∧
      ∃ rows' : Rows, (i.signOut store).2.2 = ⟨⟨some rows', undeletable, unwritable⟩, now, true⟩ ∧
        (∀ key ∈ Database.sessionKeys, rows'.find? key = none) ∧ rows'.others = rows.others) ∧
    ((∀ ended, (i.signOut store).1 ≠ .ok ended) → ∃ key,
      rows.obstacle? = some key ∧ i.signOut store = (.failed (Database.readFailure key), i, store))
    := by
  intro store
  have hrows : store.database.rows = some rows := rfl
  have hallowed :
      Database.sessionKeys.any (fun key => store.database.refuses rows (key, none)) = false := by
    rw [List.any_eq_false]
    intro key hkey
    simp [Database.refuses, store, hdeletes key hkey]
  have htexts : rows.IsText ↔ ((rows.find? Database.accessKey).isSome = true →
      ∀ key ∈ Database.sessionKeys, ∀ row, rows.find? key = some row →
        ∃ text, row.value = .text text) := by
    have hvalue : ∀ row : Row, row.value.text?.isSome = true ↔ ∃ text, row.value = .text text := by
      rintro ⟨_, value, _⟩
      cases value with
      | text value => simp [RowValue.text?]
      | blob bytes => simp [RowValue.text?]
    simp only [Rows.IsText, hvalue]
  rw [← htexts]
  cases hobstacle : rows.obstacle? with
  | some key =>
    have hout := signOut_of_obstacle? hrows hobstacle hlock
    have hstops : ¬ rows.IsText := by simp [Rows.isText_iff, hobstacle]
    rw [hout]
    refine ⟨⟨?_, fun h => absurd h hstops⟩, fun _ h => (by cases h), fun _ => ⟨key, rfl, rfl⟩⟩
    rintro ⟨_, h⟩
    cases h
  | none =>
    have htext := Rows.isText_iff.mpr hobstacle
    have hout := signOut_of_isText hrows rfl hallowed htext hlock
    rw [hout]
    refine ⟨⟨fun _ => htext, fun _ => ⟨_, rfl⟩⟩, ?_, fun h => absurd rfl (h _)⟩
    intro ended h
    obtain rfl := Outcome.ok.inj h
    refine ⟨Iff.rfl, ?_, rows.others, rfl, fun key => rows.find?_others, rows.others_others⟩
    cases (rows.find? Database.accessKey).isSome with
    | true => rfl
    | false => simp

/-- What is left of a session without an access token is cleared away, bytes included. -/
theorem logout_of_leftover :
    let rows : Rows := [⟨"refresh_token", .blob [0xFF], "then"⟩, ⟨"theme", .text "dark", "then"⟩]
    let store : OpenDatabase := ⟨⟨some rows, ["theme"], []⟩, "now", true⟩
    let after := Invalidator.new.signOut store
    (∀ key ∈ Database.sessionKeys, key ∉ store.database.undeletable) ∧
      after.1 = .ok false ∧ after.2.1.feed.events = [] ∧
      ∃ rows' : Rows, after.2.2 = ⟨⟨some rows', ["theme"], []⟩, "now", true⟩ ∧
        (∀ key ∈ Database.sessionKeys, rows'.find? key = none) ∧ rows'.others = rows.others := by
  intro rows store after
  have hdeletes : ∀ key ∈ Database.sessionKeys, key ∉ store.database.undeletable := by decide
  obtain ⟨hiff, hdone, -⟩ :=
    logout_of_table rows store.database.undeletable [] "now" .new rfl hdeletes
  obtain ⟨ended, hended⟩ := hiff.mpr fun haccess => absurd haccess (by decide)
  obtain ⟨hwas, htold, hleft⟩ := hdone ended hended
  obtain rfl : ended = false := Bool.eq_false_iff.mpr fun h => absurd (hwas.mp h) (by decide)
  exact ⟨hdeletes, hended, htold, hleft⟩

/-- A session whose tenant is not a text cannot be logged out of, although nothing keeps its rows
from being deleted. -/
theorem logout_refused :
    let rows : Rows := [⟨"access_token", .text "A1", "then"⟩, ⟨"tenant_id", .blob [0xFF], "then"⟩]
    let store : OpenDatabase := ⟨⟨some rows, [], []⟩, "now", true⟩
    (∀ ended, (Invalidator.new.signOut store).1 ≠ .ok ended) ∧
      (Invalidator.new.signOut store).2 = (.new, store) ∧
      Store.clear store = (.ok (), ⟨⟨some [], [], []⟩, "now", true⟩) := by
  decide

end OpenDatabase

end BearerClient
