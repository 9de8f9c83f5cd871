import BearerClient.Proofs.CommandLineFrame
import BearerClient.Proofs.Responses
import BearerClient.Proofs.SessionVersions
import BearerClient.Proofs.Trimming

/-!
# Imported sessions

A user who imports a session types its fields, with blanks around them or nothing but blanks. What
is stored has no blanks around it, and a session that is read back and typed in again is stored as
it was. The access token of a session is never empty: an import does not take a blank one, and the
backend's tokens are not taken if theirs is. Nothing else brings an access token into a store
(`SurvivesUse`), so an empty one never gets there.

The main statement is `imports_are_normalised`.
-/

namespace BearerClient

/-! ## What is typed -/

/-- A field of a session says what was given for it. -/
inductive Session.Says (given : String) : Option String → Prop where
  /-- What was given is blank, and the field is absent. -/
  | absent (hblank : Text.IsBlank given) : Says given none
  /-- The field is what was given without the blanks around it, which is something. -/
  | present {field : String} (htrim : Text.IsTrimOf field given) (hne : field ≠ "") :
      Says given (some field)

namespace Text

theorem isBlankText_iff {s : String} : isBlankText s = true ↔ IsBlank s := by
  rw [isBlankText, String.isEmpty_iff, trim_eq_empty_iff]

theorem trim?_eq (s : String) : trim? s = if trim s = "" then none else some (trim s) := by
  by_cases hempty : trim s = ""
  · simp [trim?, hempty]
  · simp [trim?, hempty]

theorem says_trim? (given : String) : Session.Says given (trim? given) := by
  rw [trim?_eq]
  by_cases hempty : trim given = ""
  · rw [if_pos hempty]
    exact .absent (trim_eq_empty_iff.mp hempty)
  · rw [if_neg hempty]
    exact .present (isTrimOf_trim given) hempty

/-- Typing a field again gives the same field. -/
theorem trim?_trim? (given : String) : trim? ((trim? given).getD "") = trim? given := by
  rw [trim?_eq given]
  by_cases hempty : trim given = ""
  · rw [if_pos hempty]
    rfl
  · rw [if_neg hempty, Option.getD_some, trim?_eq, trim_trim, if_neg hempty]

end Text

namespace Program

theorem imported_of_isBlank {access : String} (h : Text.IsBlank access) (refresh tenant : String) :
    importedSession (some access) (some refresh) (some tenant) =
      .error (.plain blankAccessToken) := by
  simp [importedSession, Text.isBlankText_iff.mpr h, bind, Except.bind, throw, throwThe,
    MonadExceptOf.throw]

theorem imported_of_not_isBlank {access : String} (h : ¬ Text.IsBlank access)
    (refresh tenant : String) : importedSession (some access) (some refresh) (some tenant) =
      .ok ⟨Text.trim access, Text.trim? refresh, Text.trim? tenant⟩ := by
  have hblank : ¬ Text.isBlankText access = true := fun hblank => h (Text.isBlankText_iff.mp hblank)
  simp [importedSession, Session.ofFields, hblank, bind, Except.bind, Except.mapError]

/-- Other blanks than those of ASCII do not count either. -/
example : (importedSession (some "\u00a0A1\t") (some "\u3000") (some " t 1 ")).toOption =
    some ⟨"A1", none, some "t 1"⟩ := by
  decide +kernel

/-- The fields of an imported session are imported as the same session. -/
theorem imported_again {access : String} (h : ¬ Text.IsBlank access) (refresh tenant : String) :
    importedSession (some (Text.trim access)) (some ((Text.trim? refresh).getD ""))
      (some ((Text.trim? tenant).getD "")) =
        .ok ⟨Text.trim access, Text.trim? refresh, Text.trim? tenant⟩ := by
  have htrimmed : ¬ Text.IsBlank (Text.trim access) := by
    rw [← Text.trim_eq_empty_iff, Text.trim_trim, Text.trim_eq_empty_iff]
    exact h
  rw [imported_of_not_isBlank htrimmed, Text.trim_trim, Text.trim?_trim?, Text.trim?_trim?]

/-- A session is imported only with an access token. -/
theorem accessToken_ne_of_imported {access refresh tenant : Option String} {s : Session}
    (h : importedSession access refresh tenant = .ok s) : s.accessToken ≠ "" := by
  cases access with
  | none => cases h
  | some access =>
    by_cases hblank : Text.isBlankText access = true
    · simp [importedSession, hblank, bind, Except.bind, throw, throwThe, MonadExceptOf.throw] at h
    · cases refresh with
      | none => simp [importedSession, hblank, bind, Except.bind] at h
      | some refresh =>
        cases tenant with
        | none => simp [importedSession, hblank, bind, Except.bind] at h
        | some tenant =>
          have hgiven : ¬ Text.IsBlank access := fun h => hblank (Text.isBlankText_iff.mpr h)
          rw [imported_of_not_isBlank hgiven] at h
          rw [← Except.ok.inj h]
          exact fun hempty => hgiven (Text.trim_eq_empty_iff.mp hempty)

end Program

namespace OpenDatabase

/-- A session that is stored without a failure is the one that is read, whatever there was before.
-/
theorem get_of_set_ok {s : Session} {database : OpenDatabase}
    (h : (Store.set s database).1 = .ok ()) :
    (Store.get (Store.set s database).2).1 = .ok (some s) := by
  rcases set_cases s database with ⟨db, hchange, hset⟩ | ⟨message, hset⟩
  · rw [hset]
    simp only [Store.get, Database.session_of_replaceSession hchange]
  · rw [hset] at h
    cases h

/-- Removing the session makes the change of the database, or fails and changes nothing. -/
theorem clear_cases (s : OpenDatabase) :
    (∃ db, s.database.removeSession = .ok db ∧
      Store.clear s = (.ok (), { s with database := db })) ∨
    ∃ message, Store.clear s = (.failed message, s) := by
  simp only [Store.clear]
  by_cases hwritable : s.isWritable = true
  · rw [if_pos hwritable]
    exact commit_cases Database.removeSession s
  · rw [if_neg hwritable]
    exact .inr ⟨_, rfl⟩

/-- Storing succeeds if the database refuses none of the rows. -/
theorem set_ok {s : Session} {database : OpenDatabase} {rows : Rows}
    (hrows : database.database.rows = some rows) (hwritable : database.isWritable = true)
    (hallowed : ∀ entry ∈ s.fields, database.database.refuses rows entry = false) :
    (Store.set s database).1 = .ok () := by
  have hnone : s.fields.find? (database.database.refuses rows) = none := by
    rw [List.find?_eq_none]
    intro entry hmem
    simp [hallowed entry hmem]
  rw [set_eq hrows hwritable, hnone]

end OpenDatabase

/-! ## What every use of a store keeps -/

/-- A property of a store that every operation keeps, except perhaps storing a session with an empty
access token. -/
structure SurvivesUse {σ : Type} [Store σ] (P : σ → Prop) : Prop where
  /-- Reading keeps it. -/
  get : ∀ store, P store → P (Store.get store).2
  /-- Storing a session with an access token keeps it. -/
  set : ∀ s store, s.accessToken ≠ "" → P store → P (Store.set s store).2
  /-- Removing the session keeps it. -/
  clear : ∀ store, P store → P (Store.clear store).2

namespace SurvivesUse

variable {σ : Type} [Store σ] {P : σ → Prop} {store : σ}

theorem clearWith (h : SurvivesUse P) (hstore : P store) (value : Bool)
    (event : Option SessionEvent) (i : Invalidator) : P (i.clearWith value event store).2.2 := by
  have hclear := h.clear store hstore
  unfold Invalidator.clearWith
  rcases i.clear_cases store with ⟨-, hcleared⟩ | ⟨message, -, hcleared⟩ | ⟨-, hcleared⟩
  · rw [hcleared]
    exact hclear
  · rw [hcleared]
    exact hclear
  · rw [hcleared]
    exact hclear

theorem look (h : SurvivesUse P) (hstore : P store) (rejected : Option String) (i : Invalidator) :
    P (i.look rejected store).2.2 := by
  have hget := h.get store hstore
  unfold Invalidator.look
  split
  · exact hstore
  · generalize Store.get store = result at hget ⊢
    obtain ⟨outcome, after⟩ := result
    match outcome with
    | .panicked => exact hget
    | .failed message => exact hget
    | .ok none => exact hget
    | .ok (some current) =>
      dsimp only
      split
      · exact hget
      · exact hget

/-- Ending a session keeps what every use of the store keeps. -/
theorem endSession (h : SurvivesUse P) (hstore : P store) (rejected : Option String)
    (event : SessionEvent) (i : Invalidator) : P (i.endSession rejected event store).2.2 := by
  have hlook := h.look hstore rejected i
  unfold Invalidator.endSession
  generalize i.look rejected store = result at hlook ⊢
  obtain ⟨look, i', store'⟩ := result
  match look with
  | .stops outcome => exact hlook
  | .found none => exact h.clearWith hlook false none i'
  | .found (some current) => exact h.clearWith hlook true (some event) i'

end SurvivesUse

/-- The backend issues no empty access token. -/
theorem Delivery.accessToken_ne_of_tokens {url : Url} {d : Delivery} {tokens : Tokens}
    (h : d.tokens url = .ok tokens) : tokens.accessToken ≠ "" := by
  obtain ⟨r, -, hok⟩ := (Delivery.tokens_eq_iff (by simp)).mp h
  exact (Response.tokens_eq_ok_iff.mp hok).2.2

namespace Gateway

variable {σ : Type} {P : σ → Prop}

/-- An action that brings no empty access token: a login has one, and what happens to the store
otherwise keeps the property. -/
def Action.BringsToken (P : σ → Prop) : Action σ → Prop
  | .signIn s => s.accessToken ≠ ""
  | .disturb change => ∀ store, P store → P (change store)
  | _ => True

theorem Action.IsInternal.bringsToken {a : Action σ} (h : a.IsInternal) : a.BringsToken P := by
  cases a with
  | signIn s => exact h.elim
  | disturb change => exact h.elim
  | _ => trivial

variable [Store σ]

theorem signIn_eq (g : Gateway σ) (s : Session) :
    g.signIn s = ((Store.set s g.store).1, { g with store := (Store.set s g.store).2 }) := rfl

/-- The store has the property, and every session that a cycle is about to store has an access
token. -/
structure Stocked (P : σ → Prop) (g : Gateway σ) : Prop where
  /-- The store has the property. -/
  store : P g.store
  /-- The sessions that are about to be stored have access tokens. -/
  renewed : ∀ cycle ∈ g.coordinator.cycles, ∀ s, cycle.stage = .storing s → s.accessToken ≠ ""

/-- Whoever walks has read the store at most. -/
theorem Walk.store_cases {g : Gateway σ} {id : CallId} {call : Call} {a : Action σ} {phase : Phase}
    {store : σ} {notices : List Notice} (h : Walk g id call a phase store notices) :
    store = g.store ∨ store = (Store.get g.store).2 := by
  cases h with
  | findsNone => exact .inr rfl
  | opens => exact .inr rfl
  | cannotOpen => exact .inr rfl
  | breaksOpening => exact .inr rfl
  | reads => exact .inr rfl
  | cannotRead => exact .inr rfl
  | breaksReading => exact .inr rfl
  | _ => exact .inl rfl

/-- The task of a cycle has read the store at most, or has stored the renewed session. -/
theorem Work.store_cases {g : Gateway σ} {cycle : Cycle} {a : Action σ} {stage : Stage} {store : σ}
    {notices : List Notice} (h : Work g cycle a stage store notices) :
    store = g.store ∨ store = (Store.get g.store).2 ∨
      ∃ renewed, cycle.stage = .storing renewed ∧ store = (Store.set renewed g.store).2 := by
  cases h with
  | receives => exact .inl rfl
  | receivesNone => exact .inl rfl
  | stores hstage => exact .inr (.inr ⟨_, hstage, rfl⟩)
  | cannotStore hstage => exact .inr (.inr ⟨_, hstage, rfl⟩)
  | breaksStoring hstage => exact .inr (.inr ⟨_, hstage, rfl⟩)
  | _ => exact .inr (.inl rfl)

/-- A move keeps what every use of the store keeps, if it brings no empty access token. -/
theorem Stocked.store_step (h : SurvivesUse P) {g g' : Gateway σ} {a : Action σ}
    (hg : Stocked P g) (ha : a.BringsToken P) (hmove : Move g a g') : P g'.store := by
  cases hmove with
  | walks hcall hwalk =>
    rcases hwalk.store_cases with hsame | hread
    · exact hsame ▸ hg.store
    · exact hread ▸ h.get g.store hg.store
  | expires => exact h.endSession hg.store _ _ _
  -- of what a task does, only storing brings a session, and that one is known to have a token
  | works hcycle hwork =>
    rcases hwork.store_cases with hsame | hread | ⟨renewed, hstage, hstored⟩
    · exact hsame ▸ hg.store
    · exact hread ▸ h.get g.store hg.store
    · have htoken := hg.renewed _ (List.mem_of_find?_eq_some hcycle) renewed hstage
      exact hstored ▸ h.set renewed g.store htoken hg.store
  | fails => exact h.endSession hg.store _ _ _
  | settles =>
    rw [settle_store]
    exact hg.store
  | touches htouch =>
    cases htouch with
    | signsIn s => exact h.set s g.store ha hg.store
    | signsOut => exact h.endSession hg.store _ _ _
    | invalidates => exact h.endSession hg.store _ _ _
    | disturbs change => exact ha g.store hg.store
  | _ => exact hg.store

theorem Stocked.step (h : SurvivesUse P) {g g' : Gateway σ} {a : Action σ} (hg : Stocked P g)
    (horder : Orderly g) (ha : a.BringsToken P) (hmove : Move g a g') : Stocked P g' := by
  refine ⟨hg.store_step h ha hmove, ?_⟩
  intro cycle hmem s hstage
  rcases hmove.storing_cases horder hmem hstage with hbefore | ⟨tokens, session, hissues, rfl⟩
  · exact hg.renewed cycle hbefore s hstage
  -- the session is about to be stored since this step, which took its tokens from a reply
  · obtain ⟨-, delivery, -, -, request, -, -, -, htokens⟩ := hissues
    exact Delivery.accessToken_ne_of_tokens htokens

/-- A run keeps what every use of the store keeps, if nobody brings an empty access token. -/
theorem stocked_run (h : SurvivesUse P) {root : ApiRoot} {store : σ} (hstore : P store)
    {actions : List (Action σ)} (hactions : ∀ a ∈ actions, a.BringsToken P) :
    Stocked P ((Gateway.new root store).run actions) := by
  induction actions using List.reverseRecOn with
  | nil => exact ⟨hstore, fun cycle hmem => absurd hmem List.not_mem_nil⟩
  | append_singleton before a ih =>
    have hbefore := ih fun b hmem => hactions b (List.mem_append_left _ hmem)
    have horder := (orderly_new root store).run before
    rw [run_concat]
    exact hbefore.step h horder (hactions a (by simp)) (move_step _ a)

end Gateway

/-! ## Empty access tokens -/

/-- There is no empty text in the row of the access token. -/
def Rows.HasNoEmptyToken (rows : Rows) : Prop := rows.text? Database.accessKey ≠ some ""

/-- There is no empty text in the row of the access token, if there is a table. -/
def Database.HasNoEmptyToken (db : Database) : Prop := (db.rows.getD []).HasNoEmptyToken

/-- No database on the disk has an empty access token. -/
def Disk.HasNoEmptyToken (disk : Disk) : Prop :=
  ∀ location, (disk.rowsAt location).HasNoEmptyToken

theorem Rows.hasNoEmptyToken_nil : Rows.HasNoEmptyToken [] := by
  simp [HasNoEmptyToken, text?, find?]

namespace Database

theorem rows_of_replaceSession {now : String} {s : Session} {db db' : Database}
    (h : db.replaceSession now s = .ok db') :
    ∃ rows, db.rows = some rows ∧ db'.rows = some (rows.install now s) := by
  cases hrows : db.rows with
  | none =>
    obtain ⟨after, hstore, -⟩ := exists_of_bind_eq_ok h
    simp [storeField, writeKey, hrows] at hstore
  | some rows =>
    rw [replaceSession_eq hrows] at h
    split at h
    · cases h
    · exact ⟨rows, rfl, by rw [← Except.ok.inj h]⟩

theorem rows_of_removeSession {db db' : Database} (h : db.removeSession = .ok db') :
    ∃ rows, db.rows = some rows ∧ db'.rows = some rows.others := by
  cases hrows : db.rows with
  | none => simp [removeSession, hrows] at h
  | some rows =>
    rw [removeSession_eq hrows] at h
    split at h
    · cases h
    · exact ⟨rows, rfl, by rw [← Except.ok.inj h]⟩

end Database

/-- No use of a database brings an empty access token into it. -/
theorem OpenDatabase.survivesUse :
    SurvivesUse fun s : OpenDatabase => s.database.HasNoEmptyToken where
  get s hs := by
    rw [get_snd]
    exact hs
  set session s htoken hs := by
    rcases set_cases session s with ⟨db, hchange, hset⟩ | ⟨message, hset⟩
    · obtain ⟨rows, -, hrows⟩ := Database.rows_of_replaceSession hchange
      have htext := rows.text?_install s.now session.mem_fields.1
      rw [hset, Database.HasNoEmptyToken, hrows, Option.getD_some, Rows.HasNoEmptyToken, htext]
      exact fun hempty => htoken (Option.some.inj hempty)
    · rw [hset]
      exact hs
  clear s hs := by
    rcases clear_cases s with ⟨db, hchange, hclear⟩ | ⟨message, hclear⟩
    · obtain ⟨rows, -, hrows⟩ := Database.rows_of_removeSession hchange
      have hnone : rows.others.text? Database.accessKey = none := by
        rw [Rows.text?, rows.find?_others List.mem_cons_self]
        rfl
      rw [hclear, Database.HasNoEmptyToken, hrows, Option.getD_some, Rows.HasNoEmptyToken, hnone]
      exact (Option.some_ne_none "").symm
    · rw [hclear]
      exact hs

/-! ## Runs of the program -/

namespace Program

open CommandLine (Command)

/-- A request brings no empty access token into the database, whatever the backend answers. -/
theorem hasNoEmptyToken_request (settings : Settings) (d : Descriptor) {database : OpenDatabase}
    (backend : Backend) (h : database.database.HasNoEmptyToken) :
    (request settings d database backend).database.database.HasNoEmptyToken := by
  let x : Exchange := ⟨(gateway settings database).start (.request d .value), backend⟩
  obtain ⟨-, actions, hinternal, hrun⟩ :=
    x.runWithin_eq_run settings d.timeoutMs Exchange.stepBound
  have hstocked : Gateway.Stocked (fun s : OpenDatabase => s.database.HasNoEmptyToken)
      ((gateway settings database).run (.start (.request d .value) :: actions)) := by
    refine Gateway.stocked_run OpenDatabase.survivesUse h fun a hmem => ?_
    rcases List.mem_cons.mp hmem with rfl | hmem
    · trivial
    · exact (hinternal a hmem).bringsToken
  have hstore : (request settings d database backend).database =
      ((gateway settings database).run (.start (.request d .value) :: actions)).store :=
    congrArg Gateway.store hrun
  rw [hstore]
  exact hstocked.store

/-- A command brings no empty access token into the database. -/
theorem hasNoEmptyToken_execute (settings : Settings) (command : Command)
    {database : OpenDatabase} (backend : Backend) (h : database.database.HasNoEmptyToken) :
    (execute settings command database backend).database.database.HasNoEmptyToken := by
  cases command with
  | request method path data headers timeoutMs =>
    cases hdescribe : describe method path data headers
      (timeoutMs.getD settings.requestTimeoutMs) with
    | error failure =>
      simp only [execute, hdescribe]
      exact h
    | ok d =>
      simp only [execute, hdescribe]
      exact hasNoEmptyToken_request settings d backend h
  | showSession => exact h
  | importSession access refresh tenant =>
    cases hsession : importedSession access refresh tenant with
    | error failure =>
      simp only [execute, hsession]
      exact h
    | ok session =>
      simp only [execute, hsession]
      exact OpenDatabase.survivesUse.set session database (accessToken_ne_of_imported hsession) h
  | clearSession =>
    have hstore : (execute settings .clearSession database backend).database =
        (Invalidator.new.signOut database).2.2 := rfl
    rw [hstore]
    exact OpenDatabase.survivesUse.endSession h none .signedOut .new

namespace Machine

/-- One use of the program. -/
structure Use where
  /-- The environment. -/
  env : CommandLine.Environment
  /-- The command line. -/
  arguments : List String
  /-- The time. -/
  now : String
  /-- The backend. -/
  backend : Backend

/-- The machine after the program was used on it. -/
def after (m : Machine) (use : Use) : Machine :=
  (run use.env use.arguments { m with now := use.now, backend := use.backend }).2.2

theorem hasNoEmptyToken_openDatabase (here : Location) (path : String) {disk : Disk}
    (h : disk.HasNoEmptyToken) : (disk.openDatabase here path).1.HasNoEmptyToken := by
  intro other
  rcases Disk.rows_openDatabase here path disk with hsame | ⟨location, -, hkeeps⟩
  · rw [hsame other]
    exact h other
  · rcases hkeeps other with hsame | ⟨-, hempty⟩
    · rw [hsame]
      exact h other
    · rw [hempty]
      exact Rows.hasNoEmptyToken_nil

theorem hasNoEmptyToken_storedDisk {disk : Disk} (h : disk.HasNoEmptyToken)
    {database : OpenDatabase} (hdatabase : database.database.HasNoEmptyToken) (opened : Opened) :
    (storedDisk disk database opened).HasNoEmptyToken := by
  cases opened with
  | transient => exact h
  | «at» location isWritable =>
    cases isWritable with
    | false => exact h
    | true =>
      intro other
      rcases Disk.rowsAt_put_cases location database.database disk other with hsame | ⟨-, hrows⟩
      · rw [storedDisk, hsame]
        exact h other
      · rw [storedDisk, hrows]
        exact hdatabase

theorem hasNoEmptyToken_openedDatabase (m : Machine) {disk : Disk} (h : disk.HasNoEmptyToken)
    (opened : Opened) : (m.openedDatabase disk opened).database.HasNoEmptyToken := by
  cases opened with
  | transient => exact Rows.hasNoEmptyToken_nil
  | «at» location isWritable =>
    have hrows := h location
    rw [Disk.rowsAt] at hrows
    cases hdatabase : disk.database? location with
    | none =>
      simp only [openedDatabase, hdatabase]
      exact Rows.hasNoEmptyToken_nil
    | some db =>
      rw [hdatabase] at hrows
      simp only [openedDatabase, hdatabase]
      exact hrows

/-- No use of the program brings an empty access token onto the disk. -/
theorem hasNoEmptyToken_after {m : Machine} (h : m.disk.HasNoEmptyToken) (use : Use) :
    (m.after use).disk.HasNoEmptyToken := by
  let m' : Machine := { m with now := use.now, backend := use.backend }
  have hrun : m.after use = (run use.env use.arguments m').2.2 := rfl
  rw [hrun]
  cases hplan : plan use.env use.arguments with
  | error output =>
    rw [run_of_plan_error hplan]
    exact h
  | ok planned =>
    obtain ⟨settings, command⟩ := planned
    have hopens := hasNoEmptyToken_openDatabase m.here settings.sessionDbFile h
    rcases hopen : m'.disk.openDatabase m'.here settings.sessionDbFile with ⟨disk, outcome⟩
    have hdisk : disk.HasNoEmptyToken := by
      rw [hopen] at hopens
      exact hopens
    cases outcome with
    | error e =>
      rw [run_of_open_error hplan hopen]
      exact hdisk
    | ok opened =>
      rw [run_of_opened hplan hopen]
      exact hasNoEmptyToken_storedDisk hdisk
        (hasNoEmptyToken_execute settings command m'.backend
          (hasNoEmptyToken_openedDatabase m' hdisk opened)) opened

end Machine

/-- What an import stores, and that no access token is ever empty.

For all texts that are given as the fields of a session:

* the import fails exactly if the access token is blank, and leaves the database as it is then;
* otherwise it makes a session with the access token without the blanks around it, which leaves
  something, and with a refresh token and a tenant that say what was given for them;
* typed again, with nothing for what is absent, the fields of that session make the same session;
* whatever a database holds, a session that is stored in it without a failure is the one that is
  read afterwards, and storing succeeds if the database refuses none of its rows.

No login with an access token, no logout and nothing that callers and cycles do brings an empty
access token into a database that has none, such as an empty one; nor does any use of the program,
with whatever command lines, environments and replies, bring one onto a disk that has none. -/
theorem imports_are_normalised :
    (∀ access refresh tenant : String,
      let imported := importedSession (some access) (some refresh) (some tenant)
      ((∃ failure, imported = .error failure) ↔ Text.IsBlank access) ∧
      (Text.IsBlank access → ∀ settings database backend, ∃ output,
        execute settings (.importSession (some access) (some refresh) (some tenant)) database
          backend = ⟨output, database, backend, []⟩) ∧
      (¬ Text.IsBlank access → ∃ s, imported = .ok s ∧
        Text.IsTrimOf s.accessToken access ∧ s.accessToken ≠ "" ∧
        Session.Says refresh s.refreshToken ∧ Session.Says tenant s.tenantId ∧
        importedSession (some s.accessToken) (some (s.refreshToken.getD ""))
          (some (s.tenantId.getD "")) = .ok s ∧
        ∀ (root : ApiRoot) (database : OpenDatabase),
          let stored := (Gateway.new root database).signIn s
          (stored.1 = .ok () → (Store.get stored.2.store).1 = .ok (some s)) ∧
          ∀ rows, database.database.rows = some rows → database.isWritable = true →
            (∀ entry ∈ s.fields, database.database.refuses rows entry = false) →
              stored.1 = .ok ())) ∧
    (∀ (root : ApiRoot) (database : OpenDatabase) (actions : List (Gateway.Action OpenDatabase)),
      database.database.HasNoEmptyToken →
      (∀ a ∈ actions, a.BringsToken fun s => s.database.HasNoEmptyToken) →
        ((Gateway.new root database).run actions).store.database.HasNoEmptyToken) ∧
    ∀ (m : Machine) (uses : List Machine.Use), m.disk.HasNoEmptyToken →
      (uses.foldl Machine.after m).disk.HasNoEmptyToken := by
  refine ⟨?_, ?_, ?_⟩
  · intro access refresh tenant imported
    by_cases hblank : Text.IsBlank access
    · have himported : imported = _ := imported_of_isBlank hblank refresh tenant
      refine ⟨⟨fun _ => hblank, fun _ => ⟨_, himported⟩⟩, ?_, fun h => absurd hblank h⟩
      intro _ settings database backend
      refine ⟨fail (.plain blankAccessToken), ?_⟩
      simp only [execute, imported_of_isBlank hblank refresh tenant]
    · have himported : imported = _ := imported_of_not_isBlank hblank refresh tenant
      refine ⟨⟨?_, fun h => absurd h hblank⟩, fun h => absurd h hblank, fun _ => ?_⟩
      · rintro ⟨failure, hfails⟩
        rw [himported] at hfails
        cases hfails
      · refine ⟨⟨Text.trim access, Text.trim? refresh, Text.trim? tenant⟩, himported, ?_⟩
        dsimp only
        refine ⟨Text.isTrimOf_trim access, ?_, Text.says_trim? refresh, Text.says_trim? tenant,
          imported_again hblank refresh tenant, ?_⟩
        · exact fun hempty => hblank (Text.trim_eq_empty_iff.mp hempty)
        · intro root database
          rw [Gateway.signIn_eq]
          exact ⟨OpenDatabase.get_of_set_ok, fun rows => OpenDatabase.set_ok⟩
  · intro root database actions hdatabase hactions
    exact (Gateway.stocked_run OpenDatabase.survivesUse hdatabase hactions).store
  · intro m uses hdisk
    induction uses generalizing m with
    | nil => exact hdisk
    | cons use uses ih => exact ih (m.after use) (Machine.hasNoEmptyToken_after hdisk use)

end Program

end BearerClient
