import BearerClient.Proofs.LawfulStore
import Mathlib.Data.List.Find

/-!
# A session in a table

A session is spread over up to three rows, which are written and deleted one by one. Writing all
fields of a session gives `Rows.install`, and the session that rows make is `Rows.session`; whatever
was in the three rows before, the session that they make afterwards is the one that was written.

Any of the statements may be refused after others have had their effect. `replaceSession_eq` says
when one is and what is left then; the main statement is `writes_are_all_or_nothing`.
-/

namespace BearerClient

/-- The fields of a session under the keys of their rows, in the order in which they are written. -/
def Session.fields (s : Session) : List (String × Option String) :=
  [(Database.accessKey, some s.accessToken), (Database.refreshKey, s.refreshToken),
    (Database.tenantKey, s.tenantId)]

theorem Session.fst_mem_sessionKeys {s : Session} {entry : String × Option String}
    (h : entry ∈ s.fields) : entry.1 ∈ Database.sessionKeys :=
  List.mem_map_of_mem h

theorem Session.mem_fields (s : Session) : (Database.accessKey, some s.accessToken) ∈ s.fields ∧
    (Database.refreshKey, s.refreshToken) ∈ s.fields ∧
    (Database.tenantKey, s.tenantId) ∈ s.fields := by
  simp [Session.fields]

/-- The fields have keys of their own. -/
theorem Session.nodup_keys (s : Session) : (s.fields.map Prod.fst).Nodup :=
  show Database.sessionKeys.Nodup by decide

namespace Rows

/-! ## Rows of other keys -/

/-- The rows that do not belong to a session. -/
def others (rows : Rows) : Rows := rows.filter fun row => !Database.sessionKeys.contains row.key

theorem filter_put (rows : Rows) {row : Row} (keep : String → Bool)
    (hrow : keep row.key = false) :
    (rows.put row).filter (fun r => keep r.key) = rows.filter fun r => keep r.key := by
  induction rows with
  | nil => simp [put, hrow]
  | cons first rest ih =>
    unfold put
    split
    · rename_i hkey
      simp [hrow, hkey]
    · rw [List.filter_cons, List.filter_cons, ih]

theorem filter_erase (rows : Rows) {key : String} (keep : String → Bool)
    (hkey : keep key = false) :
    (rows.erase key).filter (fun r => keep r.key) = rows.filter fun r => keep r.key := by
  unfold erase
  rw [List.filter_filter]
  congr 1
  funext row
  by_cases hrow : row.key = key
  · simp [hrow, hkey]
  · simp [hrow]

/-! ## Writing -/

/-- The rows once the row under a key says what the field of a session says. -/
def store (now key : String) (field : Option String) (rows : Rows) : Rows :=
  match field with
  | some value => rows.put ⟨key, .text value, now⟩
  | none => rows.erase key

theorem find?_store (rows : Rows) (now key : String) (field : Option String) (other : String) :
    (rows.store now key field).find? other =
      if other = key then field.map fun value => ⟨key, .text value, now⟩ else rows.find? other := by
  cases field with
  | none => exact find?_erase rows key other
  | some value => exact find?_put rows ⟨key, .text value, now⟩ other

theorem others_store (rows : Rows) (now : String) {key : String} (field : Option String)
    (hkey : key ∈ Database.sessionKeys) : (rows.store now key field).others = rows.others := by
  have hkeep : (!Database.sessionKeys.contains key) = false := by simp [hkey]
  cases field with
  | none => exact filter_erase rows (fun key => !Database.sessionKeys.contains key) hkeep
  | some value => exact filter_put rows (fun key => !Database.sessionKeys.contains key) hkeep

/-- The rows once several fields are written, one after the other. -/
def storeAll (now : String) (entries : List (String × Option String)) (rows : Rows) : Rows :=
  entries.foldl (fun rows entry => rows.store now entry.1 entry.2) rows

/-- The rows once all fields of a session are written. -/
def install (now : String) (s : Session) (rows : Rows) : Rows := rows.storeAll now s.fields

theorem find?_storeAll_of_ne (now : String) {entries : List (String × Option String)}
    {key : String} (hkey : key ∉ entries.map Prod.fst) (rows : Rows) :
    (rows.storeAll now entries).find? key = rows.find? key := by
  induction entries generalizing rows with
  | nil => rfl
  | cons entry rest ih =>
    rw [List.map_cons, List.mem_cons, not_or] at hkey
    have hrest := ih hkey.2 (rows.store now entry.1 entry.2)
    rw [find?_store, if_neg hkey.1] at hrest
    exact hrest

/-- Fields under keys of their own are all found once they are written. -/
theorem find?_storeAll (now : String) {entries : List (String × Option String)}
    (hkeys : (entries.map Prod.fst).Nodup) {entry : String × Option String}
    (h : entry ∈ entries) (rows : Rows) : (rows.storeAll now entries).find? entry.1 =
      entry.2.map fun value => ⟨entry.1, .text value, now⟩ := by
  induction entries generalizing rows with
  | nil => cases h
  | cons first rest ih =>
    obtain ⟨hfirst, hrest⟩ := List.nodup_cons.mp hkeys
    rcases List.mem_cons.mp h with rfl | h
    · have hkept := find?_storeAll_of_ne now hfirst (rows.store now entry.1 entry.2)
      rw [find?_store, if_pos rfl] at hkept
      exact hkept
    · exact ih hrest h (rows.store now first.1 first.2)

theorem others_storeAll (now : String) {entries : List (String × Option String)}
    (hkeys : ∀ entry ∈ entries, entry.1 ∈ Database.sessionKeys) (rows : Rows) :
    (rows.storeAll now entries).others = rows.others := by
  induction entries generalizing rows with
  | nil => rfl
  | cons first rest ih =>
    have hrest := ih (fun entry h => hkeys entry (List.mem_cons_of_mem _ h))
      (rows.store now first.1 first.2)
    exact hrest.trans (others_store rows now first.2 (hkeys first List.mem_cons_self))

/-- Each field of the session that was written is in its row, or has none. -/
theorem find?_install (rows : Rows) (now : String) {s : Session} {entry : String × Option String}
    (h : entry ∈ s.fields) : (rows.install now s).find? entry.1 =
      entry.2.map fun value => ⟨entry.1, .text value, now⟩ :=
  find?_storeAll now (Session.nodup_keys s) h rows

/-- Writing a session does not touch the rows of other keys. -/
theorem others_install (rows : Rows) (now : String) (s : Session) :
    (rows.install now s).others = rows.others :=
  others_storeAll now (fun _ => Session.fst_mem_sessionKeys) rows

/-- There is no row of a session among the others. -/
theorem find?_others (rows : Rows) {key : String} (hkey : key ∈ Database.sessionKeys) :
    rows.others.find? key = none := by
  have hfind := find?_filter rows (fun key => !Database.sessionKeys.contains key) key
  rwa [if_neg (by simp [hkey])] at hfind

theorem others_others (rows : Rows) : rows.others.others = rows.others := by
  rw [others, others, List.filter_filter]
  simp

end Rows

/-! ## Refusals -/

namespace Database

/-- Whether the statement is refused that makes the row under a key say what a field says: a field
that is present is written, and the row of one that is absent is deleted if there is one. -/
def refuses (db : Database) (rows : Rows) (entry : String × Option String) : Bool :=
  match entry.2 with
  | some _ => db.unwritable.contains entry.1
  | none => (rows.find? entry.1).isSome && db.undeletable.contains entry.1

/-- What is told about a statement that is refused. -/
def refusal (entry : String × Option String) : String :=
  match entry.2 with
  | some _ => writeFailure entry.1
  | none => "Failed to delete session key: " ++ entry.1

theorem storeField_eq {db : Database} {rows : Rows} (hrows : db.rows = some rows) (now : String)
    (entry : String × Option String) : db.storeField now entry.1 entry.2 =
      if db.refuses rows entry = true then .error (refusal entry)
      else .ok { db with rows := some (rows.store now entry.1 entry.2) } := by
  obtain ⟨key, field⟩ := entry
  cases field with
  | none =>
    simp only [storeField, deleteKey, hrows]
    rfl
  | some value =>
    simp only [storeField, writeKey, hrows]
    rfl

/-- A statement about another key does not change what is refused. -/
theorem refuses_store (db : Database) (rows : Rows) (now : String)
    {first entry : String × Option String} (hkey : entry.1 ≠ first.1) (table : Option Rows) :
    { db with rows := table }.refuses (rows.store now first.1 first.2) entry =
      db.refuses rows entry := by
  obtain ⟨key, field⟩ := entry
  cases field with
  | none =>
    simp only [refuses]
    rw [Rows.find?_store, if_neg hkey]
  | some value => rfl

/-- Fields under keys of their own are written one by one. The first statement that is refused is
told, and if none is then all fields are written. -/
theorem storeField_foldlM {entries : List (String × Option String)}
    (hkeys : (entries.map Prod.fst).Nodup) {db : Database} {rows : Rows}
    (hrows : db.rows = some rows) (now : String) :
    entries.foldlM (fun db entry => db.storeField now entry.1 entry.2) db =
      match entries.find? (db.refuses rows) with
      | some entry => .error (refusal entry)
      | none => .ok { db with rows := some (rows.storeAll now entries) } := by
  induction entries generalizing db rows with
  | nil =>
    obtain ⟨table, undeletable, unwritable⟩ := db
    subst hrows
    rfl
  | cons first rest ih =>
    obtain ⟨hfirst, hrest⟩ := List.nodup_cons.mp hkeys
    rw [List.foldlM_cons, storeField_eq hrows now first]
    cases hrefused : db.refuses rows first with
    | true =>
      rw [List.find?_cons_of_pos hrefused]
      rfl
    | false =>
      rw [List.find?_cons_of_neg (by simp [hrefused])]
      -- What the rest is refused does not depend on the statement before.
      have hsame : rest.find? ({ db with rows := some (rows.store now first.1 first.2) }.refuses
          (rows.store now first.1 first.2)) = rest.find? (db.refuses rows) := by
        refine List.find?_congr fun entry hmem => refuses_store db rows now ?_ _
        rintro hkey
        exact hfirst (hkey ▸ List.mem_map_of_mem hmem)
      rw [← hsame]
      exact ih hrest rfl

theorem replaceSession_eq {db : Database} {rows : Rows} (hrows : db.rows = some rows)
    (now : String) (s : Session) : db.replaceSession now s =
      match s.fields.find? (db.refuses rows) with
      | some entry => .error (refusal entry)
      | none => .ok { db with rows := some (rows.install now s) } := by
  have hfold : db.replaceSession now s =
      s.fields.foldlM (fun db entry => db.storeField now entry.1 entry.2) db := by
    simp only [replaceSession, Session.fields, List.foldlM_cons, List.foldlM_nil, bind_pure]
  rw [hfold]
  exact storeField_foldlM (Session.nodup_keys s) hrows now

/-- The session is removed by one statement, which is refused if one of its rows may not be
deleted. -/
theorem removeSession_eq {db : Database} {rows : Rows} (hrows : db.rows = some rows) :
    db.removeSession =
      if sessionKeys.any (fun key => db.refuses rows (key, none)) = true then .error removeFailure
      else .ok { db with rows := some rows.others } := by
  simp only [removeSession, hrows]
  rfl

end Database

/-! ## Reading -/

/-- The text of a value; bytes have none. -/
def RowValue.text? : RowValue → Option String
  | .text value => some value
  | .blob _ => none

namespace Rows

/-- The text in the row of a key, if there is such a row. -/
def text? (rows : Rows) (key : String) : Option String :=
  (rows.find? key).bind fun row => row.value.text?

/-- The session that the rows make: none without an access token, and the fields that have no row
are absent. -/
def session (rows : Rows) : Option Session :=
  (rows.text? Database.accessKey).map fun access =>
    ⟨access, rows.text? Database.refreshKey, rows.text? Database.tenantKey⟩

/-- The values of the rows that are looked at when the session is read are texts: those of the three
rows, or none if there is no access token. -/
def IsText (rows : Rows) : Prop :=
  (rows.find? Database.accessKey).isSome = true → ∀ key ∈ Database.sessionKeys,
    ∀ row, rows.find? key = some row → row.value.text?.isSome = true

/-- Rows without an access token make no session, which reading tells whatever else they hold. -/
theorem isText_of_find? {rows : Rows} (h : rows.find? Database.accessKey = none) :
    rows.IsText ∧ rows.session = none := by
  constructor
  · intro hsome
    rw [h] at hsome
    cases hsome
  · rw [session, show rows.text? Database.accessKey = none by rw [text?, h]; rfl]
    rfl

theorem text?_install (rows : Rows) (now : String) {s : Session} {entry : String × Option String}
    (h : entry ∈ s.fields) : (rows.install now s).text? entry.1 = entry.2 := by
  rw [text?, find?_install rows now h]
  cases entry.2 with
  | none => rfl
  | some value => rfl

/-- The session that was written is the one that the rows make, whatever they were before. -/
theorem session_install (rows : Rows) (now : String) (s : Session) :
    (rows.install now s).session = some s := by
  obtain ⟨haccess, hrefresh, htenant⟩ := s.mem_fields
  rw [session, text?_install rows now haccess, text?_install rows now hrefresh,
    text?_install rows now htenant]
  rfl

theorem isText_install (rows : Rows) (now : String) (s : Session) :
    (rows.install now s).IsText := by
  intro _ key hkey row hrow
  obtain ⟨entry, hentry, rfl⟩ : ∃ entry ∈ s.fields, entry.1 = key := List.mem_map.mp hkey
  rw [find?_install rows now hentry] at hrow
  obtain ⟨value, -, rfl⟩ := Option.map_eq_some_iff.mp hrow
  rfl

/-- Without the rows of a session there is none. -/
theorem isText_others (rows : Rows) : rows.others.IsText ∧ rows.others.session = none :=
  isText_of_find? (rows.find?_others List.mem_cons_self)

end Rows

namespace Database

/-- A key is read if its row holds a text, or if it has none. -/
theorem readKey_eq_ok_iff {db : Database} {rows : Rows} (hrows : db.rows = some rows) {key : String}
    {field : Option String} : db.readKey key = .ok field ↔
      (∀ row, rows.find? key = some row → row.value.text?.isSome = true) ∧
        field = rows.text? key := by
  simp only [readKey, hrows, Rows.text?]
  cases hrow : rows.find? key with
  | none =>
    constructor
    · intro hread
      exact ⟨fun row h => (by cases h), (Except.ok.inj hread).symm⟩
    · rintro ⟨-, rfl⟩
      rfl
  | some row =>
    obtain ⟨_, value, _⟩ := row
    cases value with
    | text value =>
      constructor
      · intro hread
        refine ⟨fun row h => ?_, (Except.ok.inj hread).symm⟩
        rw [← Option.some.inj h]
        rfl
      · rintro ⟨-, rfl⟩
        rfl
    | blob bytes =>
      constructor
      · intro hread
        cases hread
      · rintro ⟨htext, -⟩
        cases htext _ rfl

/-- Rows whose values are texts are read as the session that they make. -/
theorem session_of_isText {db : Database} {rows : Rows} (hrows : db.rows = some rows)
    (htext : rows.IsText) : db.session = .ok rows.session := by
  unfold session Rows.session
  cases haccess : rows.find? accessKey with
  | none =>
    have hread : db.readKey accessKey = .ok (rows.text? accessKey) :=
      (readKey_eq_ok_iff hrows).mpr ⟨by simp [haccess], rfl⟩
    have hnone : rows.text? accessKey = none := by
      rw [Rows.text?, haccess]
      rfl
    rw [hread, hnone]
    rfl
  | some row =>
    have hread : ∀ key ∈ sessionKeys, db.readKey key = .ok (rows.text? key) := fun key hkey =>
      (readKey_eq_ok_iff hrows).mpr ⟨htext (by rw [haccess]; rfl) key hkey, rfl⟩
    rw [hread accessKey (by decide), hread refreshKey (by decide), hread tenantKey (by decide)]
    cases rows.text? accessKey with
    | none => rfl
    | some access => rfl

/-- Only rows whose values are texts can be read. -/
theorem isText_of_session {db : Database} {rows : Rows} (hrows : db.rows = some rows)
    {answer : Option Session} (hread : db.session = .ok answer) : rows.IsText := by
  obtain ⟨access?, haccess, hread⟩ := exists_of_bind_eq_ok hread
  obtain ⟨haccessText, rfl⟩ := (readKey_eq_ok_iff hrows).mp haccess
  intro hsome key hkey
  obtain ⟨first, hfirst⟩ := Option.isSome_iff_exists.mp hsome
  obtain ⟨access, htext⟩ := Option.isSome_iff_exists.mp (haccessText first hfirst)
  have hpresent : rows.text? accessKey = some access := by
    rw [Rows.text?, hfirst, Option.bind_some, htext]
  rw [hpresent] at hread
  obtain ⟨refresh, hrefresh, hread⟩ := exists_of_bind_eq_ok hread
  obtain ⟨tenant, htenant, -⟩ := exists_of_bind_eq_ok hread
  simp only [sessionKeys, List.mem_cons, List.not_mem_nil, or_false] at hkey
  rcases hkey with rfl | rfl | rfl
  · exact haccessText
  · exact ((readKey_eq_ok_iff hrows).mp hrefresh).1
  · exact ((readKey_eq_ok_iff hrows).mp htenant).1

end Database

namespace OpenDatabase

/-! ## The store -/

/-- Reading gives the session that the rows make if they can be read, and else it fails. -/
theorem get_cases {s : OpenDatabase} {rows : Rows} (hrows : s.database.rows = some rows) :
    (rows.IsText ∧ Store.get s = (.ok rows.session, s)) ∨
      ¬ rows.IsText ∧ ∃ message, Store.get s = (.failed message, s) := by
  simp only [Store.get]
  cases hread : s.database.session with
  | ok answer =>
    have htext := Database.isText_of_session hrows hread
    obtain rfl := Except.ok.inj (hread.symm.trans (Database.session_of_isText hrows htext))
    exact .inl ⟨htext, rfl⟩
  | error message =>
    refine .inr ⟨?_, message, rfl⟩
    intro htext
    cases hread.symm.trans (Database.session_of_isText hrows htext)

variable {s : OpenDatabase} {rows : Rows}

theorem set_eq (hrows : s.database.rows = some rows) (hwritable : s.isWritable = true)
    (session : Session) : Store.set session s =
      match session.fields.find? (s.database.refuses rows) with
      | some entry => (.failed (Database.refusal entry), s)
      | none => (.ok (), { s with
          database := { s.database with rows := some (rows.install s.now session) } }) := by
  simp only [Store.set, if_pos hwritable, commit, Database.replaceSession_eq hrows]
  cases session.fields.find? (s.database.refuses rows) with
  | some entry => rfl
  | none => rfl

theorem clear_eq (hrows : s.database.rows = some rows) (hwritable : s.isWritable = true) :
    Store.clear s =
      if Database.sessionKeys.any (fun key => s.database.refuses rows (key, none)) = true then
        (.failed Database.removeFailure, s)
      else (.ok (), { s with database := { s.database with rows := some rows.others } }) := by
  simp only [Store.clear, if_pos hwritable, commit, Database.removeSession_eq hrows]
  cases Database.sessionKeys.any fun key => s.database.refuses rows (key, none) with
  | true => rfl
  | false => rfl

/-- A session that is stored without a refusal is the one that is read afterwards. -/
theorem get_set (hrows : s.database.rows = some rows) (hwritable : s.isWritable = true)
    {session : Session} (hallowed : session.fields.find? (s.database.refuses rows) = none) :
    (Store.get (Store.set session s).2).1 = .ok (some session) := by
  have hset := set_eq hrows hwritable session
  rw [hallowed] at hset
  have hafter : (Store.set session s).2.database.rows = some (rows.install s.now session) := by
    rw [hset]
  rcases get_cases hafter with ⟨-, hget⟩ | ⟨hunreadable, -⟩
  · rw [hget, Rows.session_install]
  · exact absurd (rows.isText_install s.now session) hunreadable

theorem get_clear (hrows : s.database.rows = some rows) (hwritable : s.isWritable = true)
    (hallowed : Database.sessionKeys.any (fun key => s.database.refuses rows (key, none)) = false) :
    (Store.get (Store.clear s).2).1 = .ok none := by
  have hclear := clear_eq hrows hwritable
  rw [hallowed, if_neg Bool.false_ne_true] at hclear
  have hafter : (Store.clear s).2.database.rows = some rows.others := by rw [hclear]
  obtain ⟨htext, hnone⟩ := rows.isText_others
  rcases get_cases hafter with ⟨-, hget⟩ | ⟨hunreadable, -⟩
  · rw [hget, hnone]
  · exact absurd htext hunreadable

/-- For every table, every session and all keys whose rows the database refuses to write or to
delete, if the database has no other fault:

* storing a session fails exactly if one of its statements is refused; the first one that is gets
  told, and everything is as before;
* otherwise the session is in place: each of its fields is in its row with the time of the writing,
  those that are absent have no row, the rows of other keys are as before, and reading gives the
  session;
* removing the session fails exactly if one of its rows may not be deleted, and everything is as
  before; otherwise no row of it is left, and the rows of other keys are as before. -/
theorem writes_are_all_or_nothing (rows : Rows) (undeletable unwritable : List String)
    (now : String) :
    let db : Database := ⟨some rows, undeletable, unwritable⟩
    let store : OpenDatabase := ⟨db, now, true⟩
    (∀ s : Session,
      ((∃ message, (Store.set s store).1 = .failed message) ↔
        ∃ entry ∈ s.fields, db.refuses rows entry = true) ∧
      (∀ entry, s.fields.find? (db.refuses rows) = some entry →
        Store.set s store = (.failed (Database.refusal entry), store)) ∧
      ((∀ entry ∈ s.fields, db.refuses rows entry = false) → ∃ rows' : Rows,
        Store.set s store = (.ok (), ⟨⟨some rows', undeletable, unwritable⟩, now, true⟩) ∧
        (∀ entry ∈ s.fields, rows'.find? entry.1 =
          entry.2.map fun value => ⟨entry.1, .text value, now⟩) ∧
        rows'.others = rows.others ∧ (Store.get (Store.set s store).2).1 = .ok (some s))) ∧
    ((∃ message, (Store.clear store).1 = .failed message) ↔
      ∃ key ∈ Database.sessionKeys, (rows.find? key).isSome = true ∧ key ∈ undeletable) ∧
    (∀ message, (Store.clear store).1 = .failed message → (Store.clear store).2 = store) ∧
    ((∀ key ∈ Database.sessionKeys, (rows.find? key).isSome = true → key ∉ undeletable) →
      ∃ rows' : Rows,
        Store.clear store = (.ok (), ⟨⟨some rows', undeletable, unwritable⟩, now, true⟩) ∧
        (∀ key ∈ Database.sessionKeys, rows'.find? key = none) ∧ rows'.others = rows.others ∧
        (Store.get (Store.clear store).2).1 = .ok none) := by
  intro db store
  have hrows : store.database.rows = some rows := rfl
  have hclear := clear_eq hrows rfl
  have hrefused : Database.sessionKeys.any (fun key => db.refuses rows (key, none)) = true ↔
      ∃ key ∈ Database.sessionKeys, (rows.find? key).isSome = true ∧ key ∈ undeletable := by
    simp [Database.refuses, db]
  refine ⟨fun s => ⟨?_, ?_, ?_⟩, ?_, ?_, ?_⟩
  · have hset := set_eq hrows rfl s
    rw [← List.find?_isSome, hset]
    cases s.fields.find? (store.database.refuses rows) with
    | some entry => simp
    | none => simp
  · intro entry hentry
    have hset := set_eq hrows rfl s
    rw [hentry] at hset
    exact hset
  · intro hallowed
    have hnone : s.fields.find? (db.refuses rows) = none := by
      rw [List.find?_eq_none]
      intro entry hmem
      simp [hallowed entry hmem]
    have hset := set_eq hrows rfl s
    rw [hnone] at hset
    exact ⟨_, hset, fun entry => rows.find?_install now, rows.others_install now s,
      get_set hrows rfl hnone⟩
  · rw [← hrefused, hclear]
    cases Database.sessionKeys.any (fun key => db.refuses rows (key, none)) with
    | true => simp
    | false => simp
  · intro message hfailed
    rw [hclear] at hfailed ⊢
    split at hfailed
    · rename_i hany
      rw [if_pos hany]
    · cases hfailed
  · intro hallowed
    have hnone : Database.sessionKeys.any (fun key => db.refuses rows (key, none)) = false := by
      rw [← Bool.not_eq_true, hrefused]
      rintro ⟨key, hkey, hrow, hmem⟩
      exact hallowed key hkey hrow hmem
    have hafter := get_clear hrows rfl hnone
    rw [show store.database.refuses rows = db.refuses rows from rfl, hnone,
      if_neg Bool.false_ne_true] at hclear
    exact ⟨rows.others, hclear, fun key => rows.find?_others, rows.others_others, hafter⟩

end OpenDatabase

end BearerClient
