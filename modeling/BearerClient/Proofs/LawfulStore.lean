import BearerClient.Session.Invalidator
import BearerClient.Session.Table

/-!
# Stores that keep the session

A store is lawful if it holds one session, or none, which reading gives and does not change, and
which replacing and removing change only if they succeed. The store in memory, the store in a
database and a lawful store with faults in front of it are all lawful.

Main statements: `Invalidator.held_endSession`, ending a session keeps the session or removes it,
and `Invalidator.held_invalidate`, it removes a session that holds the refused token if it succeeds.
-/

namespace BearerClient

/-- A computation that succeeds does so in each of its parts. -/
theorem exists_of_bind_eq_ok {ε α β : Type} {x : Except ε α} {f : α → Except ε β} {b : β}
    (h : (x >>= f) = .ok b) : ∃ a, x = .ok a ∧ f a = .ok b := by
  cases x with
  | error e => cases h
  | ok a => exact ⟨a, rfl, h⟩

/-- A store that holds a session until it is replaced or removed. -/
class LawfulStore (σ : Type) [Store σ] where
  /-- The session that the store holds. -/
  held : σ → Option Session
  /-- Reading gives the session. -/
  get_ok : ∀ store session, (Store.get store).1 = .ok session → held store = session
  /-- Reading does not change the session. -/
  held_get : ∀ store, held (Store.get store).2 = held store
  /-- Replacing that succeeds puts the new session in place. -/
  held_set : ∀ session store, (Store.set session store).1 = .ok () →
    held (Store.set session store).2 = some session
  /-- Replacing that does not succeed changes nothing. -/
  held_set_of_ne : ∀ session store, (Store.set session store).1 ≠ .ok () →
    held (Store.set session store).2 = held store
  /-- Removing that succeeds leaves no session. -/
  held_clear : ∀ store, (Store.clear store).1 = .ok () → held (Store.clear store).2 = none
  /-- Removing that does not succeed changes nothing. -/
  held_clear_of_ne : ∀ store, (Store.clear store).1 ≠ .ok () →
    held (Store.clear store).2 = held store

export LawfulStore (held)

/-! ## The store in memory -/

instance : LawfulStore Cell where
  held cell := cell.session
  get_ok _ _ h := Outcome.ok.inj h
  held_get _ := rfl
  held_set _ _ _ := rfl
  held_set_of_ne _ _ h := absurd rfl h
  held_clear _ _ := rfl
  held_clear_of_ne _ h := absurd rfl h

/-! ## Stores that fail on demand -/

namespace Rigged

variable {σ : Type}

/-- An operation either ends as it does behind the faults, or does not succeed and does nothing. -/
theorem guarded_cases {α : Type} (operation : StoreOperation) (run : σ → Outcome α × σ)
    (s : Rigged σ) :
    ((guarded operation run s).1 = (run s.inner).1 ∧
      (guarded operation run s).2.inner = (run s.inner).2) ∨
    (∀ value, (guarded operation run s).1 ≠ .ok value) ∧
      (guarded operation run s).2.inner = s.inner := by
  unfold guarded
  split
  · rename_i fault faults hconsult
    refine .inr ⟨?_, rfl⟩
    intro value
    show fault.outcome ≠ Outcome.ok value
    unfold Fault.outcome
    split
    · simp
    · simp
  · exact .inl ⟨rfl, rfl⟩

instance [Store σ] [LawfulStore σ] : LawfulStore (Rigged σ) where
  held s := held s.inner
  get_ok s session h := by
    rcases guarded_cases .get Store.get s with ⟨houtcome, -⟩ | ⟨hfault, -⟩
    · exact LawfulStore.get_ok s.inner session (houtcome.symm.trans h)
    · exact absurd h (hfault session)
  held_get s := by
    rcases guarded_cases .get Store.get s with ⟨-, hinner⟩ | ⟨-, hinner⟩
    · exact (congrArg held hinner).trans (LawfulStore.held_get s.inner)
    · exact congrArg held hinner
  held_set session s h := by
    rcases guarded_cases .set (Store.set session) s with ⟨houtcome, hinner⟩ | ⟨hfault, -⟩
    · exact (congrArg held hinner).trans
        (LawfulStore.held_set session s.inner (houtcome.symm.trans h))
    · exact absurd h (hfault ())
  held_set_of_ne session s h := by
    rcases guarded_cases .set (Store.set session) s with ⟨houtcome, hinner⟩ | ⟨-, hinner⟩
    · exact (congrArg held hinner).trans
        (LawfulStore.held_set_of_ne session s.inner fun hok => h (houtcome.trans hok))
    · exact congrArg held hinner
  held_clear s h := by
    rcases guarded_cases .clear Store.clear s with ⟨houtcome, hinner⟩ | ⟨hfault, -⟩
    · exact (congrArg held hinner).trans
        (LawfulStore.held_clear s.inner (houtcome.symm.trans h))
    · exact absurd h (hfault ())
  held_clear_of_ne s h := by
    rcases guarded_cases .clear Store.clear s with ⟨houtcome, hinner⟩ | ⟨-, hinner⟩
    · exact (congrArg held hinner).trans
        (LawfulStore.held_clear_of_ne s.inner fun hok => h (houtcome.trans hok))
    · exact congrArg held hinner

end Rigged

/-! ## The store in a database -/

namespace Rows

/-- The row that was put is found under its key, and any other key finds what it found before. -/
theorem find?_put (rows : Rows) (row : Row) (key : String) :
    (rows.put row).find? key = if key = row.key then some row else rows.find? key := by
  induction rows with
  | nil =>
    by_cases hkey : key = row.key
    · simp [put, find?, hkey]
    · have hkey' : ¬ row.key = key := fun h => hkey h.symm
      simp [put, find?, hkey, hkey']
  | cons first rest ih =>
    unfold find? at ih ⊢
    unfold put
    by_cases hfirst : first.key = row.key
    · rw [if_pos hfirst]
      by_cases hkey : key = row.key
      · simp [hkey]
      · have hkey' : ¬ row.key = key := fun h => hkey h.symm
        simp [hkey, hkey', hfirst]
    · rw [if_neg hfirst]
      by_cases hkey : key = row.key
      · rw [if_pos hkey] at ih ⊢
        have hne : ¬ first.key = key := fun h => hfirst (h.trans hkey)
        simp [hne, ih]
      · rw [if_neg hkey] at ih ⊢
        by_cases hfound : first.key = key
        · simp [hfound]
        · simp [hfound, ih]

/-- Rows that are kept by their key are found under it, and others are not. -/
theorem find?_filter (rows : Rows) (keep : String → Bool) (key : String) :
    find? (rows.filter fun row => keep row.key) key =
      if keep key = true then rows.find? key else none := by
  induction rows with
  | nil => simp [find?]
  | cons first rest ih =>
    unfold find? at ih ⊢
    by_cases hfirst : keep first.key = true
    · rw [List.filter_cons, if_pos hfirst]
      by_cases hfound : first.key = key
      · subst hfound
        simp [hfirst]
      · simpa [hfound] using ih
    · rw [List.filter_cons, if_neg hfirst]
      by_cases hfound : first.key = key
      · subst hfound
        simpa [hfirst] using ih
      · simpa [hfound] using ih

theorem find?_erase (rows : Rows) (erased key : String) :
    (rows.erase erased).find? key = if key = erased then none else rows.find? key := by
  have hfilter := find?_filter rows (fun key => decide (key ≠ erased)) key
  by_cases hkey : key = erased
  · simpa [erase, hkey] using hfilter
  · simpa [erase, hkey] using hfilter

end Rows

namespace Database

/-- A field that is stored is found under its key, unless it is absent, and any other key finds what
it found before. -/
theorem find?_of_storeField {now key : String} {field : Option String} {db db' : Database}
    (h : db.storeField now key field = .ok db') :
    ∃ rows rows', db.rows = some rows ∧ db'.rows = some rows' ∧
      ∀ other, (rows'.find? other).map Row.value =
        if other = key then field.map RowValue.text else (rows.find? other).map Row.value := by
  cases hrows : db.rows with
  | none =>
    cases field with
    | none => simp [storeField, deleteKey, hrows] at h
    | some value => simp [storeField, writeKey, hrows] at h
  | some rows =>
    cases field with
    | none =>
      simp only [storeField, deleteKey, hrows] at h
      split at h
      · cases h
      · obtain rfl := Except.ok.inj h
        refine ⟨rows, rows.erase key, rfl, rfl, ?_⟩
        intro other
        rw [Rows.find?_erase]
        split
        · rfl
        · rfl
    | some value =>
      simp only [storeField, writeKey, hrows] at h
      split at h
      · cases h
      · obtain rfl := Except.ok.inj h
        refine ⟨rows, rows.put ⟨key, .text value, now⟩, rfl, rfl, ?_⟩
        intro other
        rw [Rows.find?_put]
        split
        · rfl
        · rfl

/-- What a text that is found under a key reads as. -/
theorem readKey_of_find? {db : Database} {rows : Rows} {key : String} {field : Option String}
    (hrows : db.rows = some rows) (hfind : (rows.find? key).map Row.value = field.map .text) :
    db.readKey key = .ok field := by
  cases hrow : rows.find? key with
  | none =>
    rw [hrow] at hfind
    cases field with
    | none => simp [readKey, hrows, hrow]
    | some value => cases hfind
  | some row =>
    rw [hrow] at hfind
    cases field with
    | none => cases hfind
    | some value =>
      have hvalue : row.value = .text value := Option.some.inj hfind
      simp [readKey, hrows, hrow, hvalue]

/-- The session that was stored is the one that is read. -/
theorem session_of_replaceSession {now : String} {s : Session} {db db' : Database}
    (h : db.replaceSession now s = .ok db') : db'.session = .ok (some s) := by
  unfold replaceSession at h
  cases haccess : db.storeField now accessKey (some s.accessToken) with
  | error message => simp [haccess, bind, Except.bind] at h
  | ok db₁ =>
    cases hrefresh : db₁.storeField now refreshKey s.refreshToken with
    | error message => simp [haccess, hrefresh, bind, Except.bind] at h
    | ok db₂ =>
      have htenant : db₂.storeField now tenantKey s.tenantId = .ok db' := by
        simpa [haccess, hrefresh, bind, Except.bind] using h
      obtain ⟨_, rows₁, -, hrows₁, hfind₁⟩ := find?_of_storeField haccess
      obtain ⟨rows₁', rows₂, hrows₁', hrows₂, hfind₂⟩ := find?_of_storeField hrefresh
      obtain ⟨rows₂', rows₃, hrows₂', hrows₃, hfind₃⟩ := find?_of_storeField htenant
      obtain rfl : rows₁ = rows₁' := Option.some.inj (hrows₁.symm.trans hrows₁')
      obtain rfl : rows₂ = rows₂' := Option.some.inj (hrows₂.symm.trans hrows₂')
      have haccess' : db'.readKey accessKey = .ok (some s.accessToken) :=
        readKey_of_find? hrows₃ (by rw [hfind₃, if_neg (by decide), hfind₂, if_neg (by decide),
          hfind₁, if_pos rfl])
      have hrefresh' : db'.readKey refreshKey = .ok s.refreshToken :=
        readKey_of_find? hrows₃ (by rw [hfind₃, if_neg (by decide), hfind₂, if_pos rfl])
      have htenant' : db'.readKey tenantKey = .ok s.tenantId :=
        readKey_of_find? hrows₃ (by rw [hfind₃, if_pos rfl])
      simp [session, haccess', hrefresh', htenant', bind, Except.bind, pure, Except.pure]

theorem session_of_removeSession {db db' : Database} (h : db.removeSession = .ok db') :
    db'.session = .ok none := by
  unfold removeSession at h
  cases hrows : db.rows with
  | none => simp [hrows] at h
  | some rows =>
    simp only [hrows] at h
    split at h
    · cases h
    · obtain rfl := Except.ok.inj h
      have hgone : Rows.find? (rows.filter fun row => !sessionKeys.contains row.key) accessKey =
          none := rows.find?_filter (fun key => !sessionKeys.contains key) accessKey
      have hread : readKey ⟨some (rows.filter fun row => !sessionKeys.contains row.key),
          db.undeletable, db.unwritable⟩ accessKey = .ok none :=
        readKey_of_find? rfl (by rw [hgone]; rfl)
      simp only [session, hread, bind, Except.bind, pure, Except.pure]

end Database

namespace OpenDatabase

/-- A change that succeeds has been made, and one that does not has not. -/
theorem commit_cases (change : Database → Except String Database) (s : OpenDatabase) :
    (∃ db, change s.database = .ok db ∧ s.commit change = (.ok (), { s with database := db })) ∨
    ∃ message, s.commit change = (.failed message, s) := by
  unfold commit
  cases hchange : change s.database with
  | ok db => exact .inl ⟨db, rfl, rfl⟩
  | error message => exact .inr ⟨message, rfl⟩

/-- The session in the database, if it can be read. -/
def session? (s : OpenDatabase) : Option Session := s.database.session.toOption.join

instance : LawfulStore OpenDatabase where
  held := session?
  get_ok s session h := by
    simp only [Store.get] at h
    split at h
    · rename_i read hread
      obtain rfl := Outcome.ok.inj h
      simp [session?, hread, Except.toOption]
    · cases h
  held_get s := by
    simp only [Store.get]
    split
    · rfl
    · rfl
  held_set session s h := by
    simp only [Store.set] at h ⊢
    split at h
    · rename_i hwritable
      rw [if_pos hwritable]
      rcases commit_cases (Database.replaceSession s.now session) s with
        ⟨db, hchange, hcommit⟩ | ⟨message, hcommit⟩
      · rw [hcommit, session?, Database.session_of_replaceSession hchange]
        rfl
      · rw [hcommit] at h
        cases h
    · cases h
  held_set_of_ne session s h := by
    simp only [Store.set] at h ⊢
    split
    · rename_i hwritable
      rw [if_pos hwritable] at h
      rcases commit_cases (Database.replaceSession s.now session) s with
        ⟨db, -, hcommit⟩ | ⟨message, hcommit⟩
      · rw [hcommit] at h
        exact absurd rfl h
      · rw [hcommit]
    · rfl
  held_clear s h := by
    simp only [Store.clear] at h ⊢
    split at h
    · rename_i hwritable
      rw [if_pos hwritable]
      rcases commit_cases Database.removeSession s with ⟨db, hchange, hcommit⟩ | ⟨message, hcommit⟩
      · rw [hcommit, session?, Database.session_of_removeSession hchange]
        rfl
      · rw [hcommit] at h
        cases h
    · cases h
  held_clear_of_ne s h := by
    simp only [Store.clear] at h ⊢
    split
    · rename_i hwritable
      rw [if_pos hwritable] at h
      rcases commit_cases Database.removeSession s with ⟨db, -, hcommit⟩ | ⟨message, hcommit⟩
      · rw [hcommit] at h
        exact absurd rfl h
      · rw [hcommit]
    · rfl

end OpenDatabase

/-! ## Ending sessions -/

namespace Invalidator

section Serving

variable {σ : Type} [Store σ]

/-- The ways in which clearing the store goes. -/
theorem clear_cases (i : Invalidator) (store : σ) :
    ((Store.clear store).1 = .ok () ∧ i.clear store = (.ok (), i, (Store.clear store).2)) ∨
    (∃ message, (Store.clear store).1 = .failed message ∧
      i.clear store = (.failed message, i, (Store.clear store).2)) ∨
    (Store.clear store).1 = .panicked ∧
      i.clear store = (.panicked, { i with poisoned := true }, (Store.clear store).2) := by
  unfold clear
  rcases Store.clear store with ⟨outcome, after⟩
  match outcome with
  | .ok () => exact .inl ⟨rfl, rfl⟩
  | .failed message => exact .inr (.inl ⟨message, rfl, rfl⟩)
  | .panicked => exact .inr (.inr ⟨rfl, rfl⟩)

/-- A look tells nothing. -/
theorem look_feed (rejected : Option String) (i : Invalidator) (store : σ) :
    (i.look rejected store).2.1.feed = i.feed := by
  unfold look
  split
  · rfl
  · rcases Store.get store with ⟨outcome, after⟩
    match outcome with
    | .panicked => rfl
    | .failed message => rfl
    | .ok none => rfl
    | .ok (some current) =>
      dsimp only
      split
      · rfl
      · rfl

/-- If the session can be read and removed, ending it succeeds and leaves the lock usable. -/
theorem endSession_of_serves {i : Invalidator} {store : σ} {session : Option Session}
    (hi : i.poisoned = false) (hget : (Store.get store).1 = .ok session)
    (hclear : (Store.clear (Store.get store).2).1 = .ok ()) (rejected : Option String)
    (event : SessionEvent) :
    (∃ ended, (i.endSession rejected event store).1 = .ok ended) ∧
      (i.endSession rejected event store).2.1.poisoned = false := by
  have hclears : ∀ (value : Bool) (event : Option SessionEvent),
      (∃ ended, (i.clearWith value event (Store.get store).2).1 = .ok ended) ∧
        (i.clearWith value event (Store.get store).2).2.1.poisoned = false := by
    intro value event
    have hcleared : i.clear (Store.get store).2 =
        (.ok (), i, (Store.clear (Store.get store).2).2) := by
      rcases i.clear_cases (Store.get store).2 with ⟨-, hok⟩ | ⟨message, hfailed, -⟩ | ⟨hpanicked, -⟩
      · exact hok
      · rw [hclear] at hfailed
        cases hfailed
      · rw [hclear] at hpanicked
        cases hpanicked
    unfold clearWith
    rw [hcleared]
    exact ⟨⟨value, rfl⟩, hi⟩
  unfold endSession look
  rw [hi]
  generalize Store.get store = result at hget hclears ⊢
  obtain ⟨outcome, after⟩ := result
  obtain rfl : outcome = .ok session := hget
  match session with
  | none => exact hclears false none
  | some current =>
    simp only [Bool.false_eq_true, if_false]
    by_cases hother : rejected.any (· ≠ current.accessToken) = true
    · rw [if_pos hother]
      exact ⟨⟨false, rfl⟩, hi⟩
    · rw [if_neg hother]
      exact hclears true (some event)

end Serving

variable {σ : Type} [Store σ] [LawfulStore σ]

/-- A look leaves the session as it is. -/
theorem held_look (rejected : Option String) (i : Invalidator) (store : σ) :
    held (i.look rejected store).2.2 = held store := by
  have hkeep := LawfulStore.held_get store
  unfold look
  split
  · rfl
  · generalize Store.get store = result at hkeep ⊢
    obtain ⟨outcome, after⟩ := result
    match outcome with
    | .panicked => exact hkeep
    | .failed message => exact hkeep
    | .ok none => exact hkeep
    | .ok (some current) =>
      dsimp only
      split
      · exact hkeep
      · exact hkeep

/-- A look fails, or shows a session that is to be let alone, or one that may be ended, or none. -/
theorem look_cases (rejected : Option String) (i : Invalidator) (store : σ) :
    (∃ outcome, (i.look rejected store).1 = .stops outcome ∧ ∀ ended, outcome ≠ .ok ended) ∨
    ((i.look rejected store).1 = .stops (.ok false) ∧
      ∃ current, held store = some current ∧ rejected.any (· ≠ current.accessToken) = true) ∨
    (i.look rejected store).1 = .found (held store) ∧
      ∀ current, held store = some current → rejected.any (· ≠ current.accessToken) = false := by
  have hget := LawfulStore.get_ok store
  unfold look
  split
  · exact .inl ⟨_, rfl, by simp⟩
  · generalize Store.get store = result at hget ⊢
    obtain ⟨outcome, after⟩ := result
    match outcome with
    | .panicked => exact .inl ⟨_, rfl, by simp⟩
    | .failed message => exact .inl ⟨_, rfl, by simp⟩
    | .ok none =>
      have hnone : held store = none := hget none rfl
      exact .inr (.inr ⟨by rw [hnone], by simp [hnone]⟩)
    | .ok (some current) =>
      have hsome : held store = some current := hget (some current) rfl
      by_cases hother : rejected.any (· ≠ current.accessToken) = true
      · dsimp only
        rw [if_pos hother]
        exact .inr (.inl ⟨rfl, current, hsome, hother⟩)
      · dsimp only
        rw [if_neg hother]
        refine .inr (.inr ⟨by rw [hsome], ?_⟩)
        intro current' h
        obtain rfl := Option.some.inj (hsome.symm.trans h)
        simpa using hother

/-- Clearing either gives its value, leaves no session and tells the event, or does nothing. -/
theorem clearWith_cases (value : Bool) (event : Option SessionEvent) (i : Invalidator) (store : σ) :
    ((clearWith value event i store).1 = .ok value ∧
      held (clearWith value event i store).2.2 = none ∧
      (clearWith value event i store).2.1.feed = event.elim i.feed i.feed.publish) ∨
    (∀ ended, (clearWith value event i store).1 ≠ .ok ended) ∧
      held (clearWith value event i store).2.2 = held store ∧
      (clearWith value event i store).2.1.feed = i.feed := by
  have hkeep := LawfulStore.held_clear_of_ne store
  unfold clearWith
  rcases i.clear_cases store with ⟨hok, hcleared⟩ | ⟨message, hfailed, hcleared⟩ |
    ⟨hpanicked, hcleared⟩
  · rw [hcleared]
    exact .inl ⟨rfl, LawfulStore.held_clear store hok, rfl⟩
  · rw [hcleared]
    exact .inr ⟨by simp, hkeep (by simp [hfailed]), rfl⟩
  · rw [hcleared]
    exact .inr ⟨by simp, hkeep (by simp [hpanicked]), rfl⟩

/-- The ways in which an attempt to end the session goes: the session is ended and its end is told,
or there is none that may be ended, or the attempt fails. -/
theorem endSession_cases (rejected : Option String) (event : SessionEvent) (i : Invalidator)
    (store : σ) :
    let after := i.endSession rejected event store
    (∃ current, held store = some current ∧ rejected.any (· ≠ current.accessToken) = false ∧
      after.1 = .ok true ∧ held after.2.2 = none ∧ after.2.1.feed = i.feed.publish event) ∨
    (held after.2.2 = held store ∧ after.2.1.feed = i.feed ∧ after.1 = .ok false ∧
      ∀ current, held store = some current → rejected.any (· ≠ current.accessToken) = true) ∨
    held after.2.2 = held store ∧ after.2.1.feed = i.feed ∧ ∀ ended, after.1 ≠ .ok ended := by
  intro after
  have hfeed := i.look_feed rejected store
  have hkeep := i.held_look rejected store
  have hlook := i.look_cases rejected store
  have hafter : after = i.endSession rejected event store := rfl
  clear_value after
  subst hafter
  unfold endSession
  generalize i.look rejected store = result at hfeed hkeep hlook ⊢
  obtain ⟨look, i', store'⟩ := result
  dsimp only at hfeed hkeep hlook
  rcases hlook with ⟨outcome, rfl, hfailed⟩ | ⟨rfl, current, hcurrent, hother⟩ | ⟨rfl, hmay⟩
  · exact .inr (.inr ⟨hkeep, hfeed, hfailed⟩)
  · refine .inr (.inl ⟨hkeep, hfeed, rfl, ?_⟩)
    intro current' h
    obtain rfl := Option.some.inj (hcurrent.symm.trans h)
    exact hother
  · cases hheld : held store with
    | none =>
      rcases clearWith_cases false none i' store' with ⟨houtcome, hgone, htold⟩ | ⟨hno, hsame, htold⟩
      · exact .inr (.inl ⟨hgone, htold.trans hfeed, houtcome, by simp⟩)
      · exact .inr (.inr ⟨hsame.trans (hkeep.trans hheld), htold.trans hfeed, hno⟩)
    | some current =>
      rcases clearWith_cases true (some event) i' store' with
        ⟨houtcome, hgone, htold⟩ | ⟨hno, hsame, htold⟩
      · exact .inl ⟨current, rfl, hmay current hheld, houtcome, hgone, by rw [← hfeed]; exact htold⟩
      · exact .inr (.inr ⟨hsame.trans (hkeep.trans hheld), htold.trans hfeed, hno⟩)

/-- Ending a session keeps the session or removes it. -/
theorem held_endSession (rejected : Option String) (event : SessionEvent) (i : Invalidator)
    (store : σ) : held (i.endSession rejected event store).2.2 = held store ∨
      held (i.endSession rejected event store).2.2 = none := by
  rcases i.endSession_cases rejected event store with
    ⟨-, -, -, -, hheld, -⟩ | ⟨hheld, -⟩ | ⟨hheld, -⟩
  · exact .inr hheld
  · exact .inl hheld
  · exact .inl hheld

/-- If the session holds the refused token, or there is none, then there is none after the session
has been ended with success. -/
theorem held_invalidate {rejected reason : String} {i : Invalidator} {store : σ} {ended : Bool}
    (hok : (i.invalidate rejected reason store).1 = .ok ended)
    (hheld : ∀ s, held store = some s → s.accessToken = rejected) :
    held (i.invalidate rejected reason store).2.2 = none := by
  rcases i.endSession_cases (some rejected) (.expired reason) store with
    ⟨-, -, -, -, hnone, -⟩ | ⟨hkeep, -, -, hother⟩ | ⟨-, -, hfailed⟩
  · exact hnone
  · cases hsession : held store with
    | none => exact hkeep.trans hsession
    | some current =>
      have hne := hother current hsession
      have htoken := hheld current hsession
      simp [htoken] at hne
  · exact absurd hok (hfailed ended)

end Invalidator

end BearerClient
