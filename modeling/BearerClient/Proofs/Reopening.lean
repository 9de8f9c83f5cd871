import BearerClient.Proofs.SessionTable
import BearerClient.Rehearsal.StoreScript

/-!
# A database file between runs

A session outlives the program in a database file. Opening the file again keeps its rows, whatever
else is created or cleared away on the way to it, so a file that is closed and opened anywhere
between the operations on it is as good as a store in memory that starts with the session which its
rows make. The main statement is `file_agrees_with_cell`.
-/

namespace BearerClient

namespace Disk

/-! ## What stands where -/

theorem node?_erase (disk : Disk) {erased location : Location} (h : location ≠ erased) :
    (disk.erase erased).node? location = disk.node? location := by
  unfold node? erase
  split
  · rfl
  · induction disk.nodes with
    | nil => rfl
    | cons first rest ih =>
      obtain ⟨place, node⟩ := first
      by_cases hplace : place = erased
      · have hne : (location == place) = false := by simpa [hplace] using h
        rw [List.filter_cons_of_neg (by simp [hplace]), List.lookup_cons, hne]
        exact ih
      · rw [List.filter_cons_of_pos (by simp [hplace]), List.lookup_cons, List.lookup_cons]
        split
        · rfl
        · exact ih

theorem node?_put_of_ne (disk : Disk) {place location : Location} (node : Node)
    (h : location ≠ place) : (disk.put place node).node? location = disk.node? location := by
  have herase := disk.node?_erase h
  have hne : (location == place) = false := by simpa using h
  unfold node? put at *
  split
  · rfl
  · rename_i hroot
    rw [if_neg hroot, if_neg hroot] at herase
    rw [List.lookup_cons, hne]
    exact herase

theorem node?_put (disk : Disk) {location : Location} (node : Node) (h : location ≠ []) :
    (disk.put location node).node? location = some node := by
  have hroot : ¬ location.isEmpty = true := by simpa using h
  rw [node?, if_neg hroot, put, List.lookup_cons_self]

theorem ne_nil_of_node? {disk : Disk} {location : Location} (h : disk.node? location = none) :
    location ≠ [] := by
  rintro rfl
  cases h

/-- What stands elsewhere, and is no database, does not matter to the database at a location. -/
theorem database?_of_node? {disk disk' : Disk} {location : Location}
    (h : disk'.node? location = disk.node? location) :
    disk'.database? location = disk.database? location := by
  rw [database?, database?, h]

theorem database?_put (disk : Disk) {location : Location} (db : Database) (h : location ≠ []) :
    (disk.put location (.database db)).database? location = some db := by
  rw [database?, node?_put disk (.database db) h]

/-- Putting something that is no database where nothing is does not matter to any database. -/
theorem database?_put_of_none {disk : Disk} {place : Location} {node : Node}
    (hnone : disk.node? place = none) (hnode : ∀ db, node ≠ .database db) (location : Location) :
    (disk.put place node).database? location = disk.database? location := by
  by_cases hplace : location = place
  · subst hplace
    rw [database?, database?, node?_put disk node (ne_nil_of_node? hnone), hnone]
    cases node with
    | database db => exact absurd rfl (hnode db)
    | directory => rfl
    | file size => rfl
  · exact database?_of_node? (disk.node?_put_of_ne node hplace)

/-! ## Directories -/

theorem database?_makeDirectory {here : Location} {path : List UInt8} {disk disk' : Disk}
    (h : disk.makeDirectory here path = .ok disk') (location : Location) :
    disk'.database? location = disk.database? location := by
  obtain ⟨place, -, h⟩ := exists_of_bind_eq_ok h
  split at h
  · cases h
  · rename_i hnone
    rw [← Except.ok.inj h]
    exact database?_put_of_none (by simpa using hnone) (by simp) location

/-- Creating directories does not matter to any database. -/
theorem database?_makeDirectories (here : Location) (paths : List String) (disk : Disk)
    (location : Location) :
    (disk.makeDirectories here paths).1.database? location = disk.database? location := by
  induction paths generalizing disk with
  | nil => rfl
  | cons path above ih =>
    unfold makeDirectories
    split
    · rfl
    · split
      · rename_i made hmade
        exact database?_makeDirectory hmade location
      · have habove := ih disk
        split
        · rename_i disk' hmade'
          rw [hmade'] at habove
          split
          · rename_i made hmade
            exact (database?_makeDirectory hmade location).trans habove
          · exact habove
        · rename_i disk' failure hmade'
          rw [hmade'] at habove
          exact habove
      · rfl

theorem database?_makeParent (here : Location) (path : String) (disk : Disk)
    (location : Location) :
    (disk.makeParent here path).1.database? location = disk.database? location := by
  unfold makeParent
  split
  · rfl
  · rfl
  · exact database?_makeDirectories here _ disk location

/-! ## Opening -/

theorem beside_ne {location : Location} (h : location ≠ []) {suffix : FileName}
    (hsuffix : suffix ≠ []) : location ≠ beside location suffix := by
  obtain ⟨above, name, rfl⟩ := (List.eq_nil_or_concat location).resolve_left h
  intro hsame
  rw [beside, List.concat_eq_append, List.dropLast_concat, List.getLast?_concat,
    Option.getD_some] at hsame
  have hname : name = name ++ suffix := by simpa using hsame
  exact hsuffix (List.append_right_eq_self.mp hname.symm)

/-- Clearing away what is beside a database does not matter to it. -/
theorem node?_clearJournal? {location : Location} (hlocation : location ≠ [])
    {isReadOnly : Bool} {disk disk' : Disk}
    (h : disk.clearJournal? location isReadOnly = some disk') :
    disk'.node? location = disk.node? location := by
  have hne : location ≠ beside location journalSuffix := beside_ne hlocation (by decide)
  unfold clearJournal? at h
  split at h
  · cases h
  · dsimp only at h
    split at h
    · rw [Option.some.inj h]
    · rw [Option.some.inj h]
    · cases h
    · split at h
      · cases h
      · rw [← Option.some.inj h]
        exact disk.node?_erase hne

theorem database?_makeTable {location : Location} (hlocation : location ≠ []) {isReadOnly : Bool}
    {db : Database} {disk disk' : Disk} {opened : Opened}
    (h : disk.makeTable location isReadOnly db = (disk', .ok opened)) :
    opened = .at location true ∧ disk'.database? location = some db.prepare := by
  unfold makeTable at h
  split at h
  · cases h
  · obtain ⟨rfl, hopened⟩ := Prod.mk.inj h
    exact ⟨(Except.ok.inj hopened).symm, database?_put _ db.prepare hlocation⟩

/-- A file that is opened holds the rows that it held before, if any. -/
theorem database?_openFile {location : Location} (hlocation : location ≠ []) {name : DatabaseName}
    {disk disk' : Disk} {opened : Opened}
    (h : disk.openFile location name = (disk', .ok opened)) :
    (∃ isWritable, opened = .at location isWritable) ∧
      disk'.database? location = some ((disk.database? location).getD .empty).prepare := by
  unfold openFile at h
  dsimp only at h
  split at h
  · cases h
  · rename_i cleared hcleared
    have hkept : cleared.node? location = disk.node? location := by
      split at hcleared
      · rw [Option.some.inj hcleared]
      · exact node?_clearJournal? hlocation hcleared
    have hbefore : disk.database? location = cleared.database? location :=
      database?_of_node? hkept.symm
    rw [hbefore]
    split at h
    · rename_i db hnode
      have hdb : cleared.database? location = some db := by rw [database?, hnode]
      rw [hdb, Option.getD_some]
      split at h
      · rename_i hrows
        obtain ⟨rfl, hopened⟩ := Prod.mk.inj h
        refine ⟨⟨_, (Except.ok.inj hopened).symm⟩, ?_⟩
        obtain ⟨rows, hrows⟩ := Option.isSome_iff_exists.mp hrows
        obtain ⟨table, undeletable, unwritable⟩ := db
        obtain rfl : table = some rows := hrows
        exact hdb
      · obtain ⟨hopened, hdb'⟩ := database?_makeTable hlocation h
        exact ⟨⟨true, hopened⟩, hdb'⟩
    · rename_i size hnode
      have hdb : cleared.database? location = none := by rw [database?, hnode]
      rw [hdb, Option.getD_none]
      split at h
      · obtain ⟨hopened, hdb'⟩ := database?_makeTable hlocation h
        exact ⟨⟨true, hopened⟩, hdb'⟩
      · cases h
    · cases h

/-! ## Paths -/

/-- Where a name leads from a location, if it leads anywhere. -/
def follow (here : Location) (name : FileName) : Location :=
  if name = sameName then here else if name = parentName then here.dropLast else here ++ [name]

/-- The location that the path of a database names. -/
def namedLocation (here : Location) (name : DatabaseName) : Location :=
  (namesOf name.path).foldl follow (startOf here name.path)

theorem cleanStep?_eq_some {disk : Disk} {here location : Location} {name : FileName}
    (h : disk.cleanStep? here name = some location) : location = follow here name := by
  unfold cleanStep? at h
  unfold follow
  split at h
  · rename_i hsame
    rw [if_pos hsame]
    exact (Option.some.inj h).symm
  · rename_i hsame
    rw [if_neg hsame]
    split at h
    · rename_i hparent
      rw [if_pos hparent]
      exact (Option.some.inj h).symm
    · rename_i hparent
      rw [if_neg hparent]
      dsimp only at h
      split at h
      · cases h
      · split at h
        · exact (Option.some.inj h).symm
        · exact (Option.some.inj h).symm
        · cases h

theorem foldlM_cleanStep? {disk : Disk} {here location : Location} {names : List FileName}
    (h : names.foldlM (cleanStep? disk) here = some location) :
    location = names.foldl follow here := by
  induction names generalizing here with
  | nil => exact (Option.some.inj h).symm
  | cons name rest ih =>
    rw [List.foldlM_cons] at h
    obtain ⟨next, hnext, hrest⟩ := Option.bind_eq_some_iff.mp h
    rw [List.foldl_cons, ← cleanStep?_eq_some hnext]
    exact ih hrest

/-- The location of a database does not depend on what there is on the disk. -/
theorem databaseLocation?_eq_some {here location : Location} {name : DatabaseName} {disk : Disk}
    (h : disk.databaseLocation? here name.path = some location) :
    location = namedLocation here name ∧ location ≠ [] := by
  obtain ⟨cleaned, hcleaned, h⟩ := Option.bind_eq_some_iff.mp h
  dsimp only at h
  split at h
  · cases h
  · rename_i hroot
    obtain rfl := Option.some.inj h
    refine ⟨foldlM_cleanStep? hcleaned, ?_⟩
    rintro rfl
    simp at hroot

theorem database?_openNamed {here : Location} {path : String} {name : DatabaseName}
    {disk disk' : Disk} {opened : Opened}
    (h : disk.openNamed here path name = (disk', .ok opened)) :
    (∃ isWritable, opened = .at (namedLocation here name) isWritable) ∧
      disk'.database? (namedLocation here name) =
        some ((disk.database? (namedLocation here name)).getD .empty).prepare := by
  unfold openNamed at h
  dsimp only at h
  split at h
  · cases h
  · rename_i location hlocation
    obtain ⟨rfl, hroot⟩ := databaseLocation?_eq_some hlocation
    split at h
    · cases h
    · split at h
      · cases h
      · exact database?_openFile hroot h
      · rename_i hnode
        split at h
        · have hopens := database?_openFile hroot h
          rw [database?_put_of_none hnode (by simp)] at hopens
          exact hopens
        · cases h

/-- The text of a path names a database file at a location. -/
def Names (here : Location) (path : String) (location : Location) : Prop :=
  ∃ name, DatabaseName.ofText? path = some name ∧ name.isFileless = false ∧
    name.backing = .disk ∧ location = namedLocation here name

/-- A database that is opened by its path has a name, and is opened under that name or is in
memory. -/
theorem openDatabase_cases {here : Location} {path : String} {disk disk' : Disk} {opened : Opened}
    (h : disk.openDatabase here path = (disk', .ok opened)) :
    ∃ name, DatabaseName.ofText? path = some name ∧
      (opened = .transient ∧ (name.isFileless = true ∨ name.backing = .memory) ∨
        name.isFileless = false ∧ name.backing = .disk ∧
          (disk.makeParent here path).1.openNamed here path name = (disk', .ok opened)) := by
  unfold openDatabase at h
  generalize disk.makeParent here path = made at h ⊢
  obtain ⟨above, outcome⟩ := made
  dsimp only at h ⊢
  have hmemory : ∀ isReadOnly : Bool,
      (above, if isReadOnly = true then Except.error OpenError.noTable else .ok .transient) =
        (disk', .ok opened) → opened = .transient := by
    intro isReadOnly hopened
    cases isReadOnly with
    | true => cases hopened
    | false => exact (Except.ok.inj (Prod.mk.inj hopened).2).symm
  split at h
  · cases h
  · split at h
    · cases h
    · rename_i name hname
      have hofText : DatabaseName.ofText? path = some name := by
        split at hname
        · cases hname
        · exact hname
      refine ⟨name, hofText, ?_⟩
      split at h
      · rename_i hfileless
        exact .inl ⟨hmemory _ h, .inl hfileless⟩
      · rename_i hfile
        split at h
        · rename_i hbacking
          exact .inl ⟨hmemory _ h, .inr hbacking⟩
        · rename_i hbacking
          exact .inr ⟨by simpa using hfile, hbacking, h⟩

/-- Opening a database file by its path gives the file that the path names, which holds the rows
that it held before, if any. -/
theorem openDatabase_at {here : Location} {path : String} {disk disk' : Disk}
    {location : Location} {isWritable : Bool}
    (h : disk.openDatabase here path = (disk', .ok (.at location isWritable))) :
    Names here path location ∧
      disk'.database? location = some ((disk.database? location).getD .empty).prepare := by
  obtain ⟨name, hname, ⟨hopened, -⟩ | ⟨hfile, hbacking, hnamed⟩⟩ := openDatabase_cases h
  · cases hopened
  · obtain ⟨⟨isWritable', hopened⟩, hdb⟩ := database?_openNamed hnamed
    obtain ⟨rfl, rfl⟩ := Opened.at.inj hopened
    rw [database?_makeParent] at hdb
    exact ⟨⟨name, hname, hfile, hbacking, rfl⟩, hdb⟩

/-- A path that names a database file leads to no other database. -/
theorem Names.opened {here : Location} {path : String} {location : Location}
    (hnames : Names here path location) {disk disk' : Disk} {opened : Opened}
    (h : disk.openDatabase here path = (disk', .ok opened)) :
    ∃ isWritable, opened = .at location isWritable := by
  obtain ⟨name, hname, hfile, hbacking, rfl⟩ := hnames
  obtain ⟨other, hother, hcases⟩ := openDatabase_cases h
  obtain rfl : name = other := Option.some.inj (hname.symm.trans hother)
  rcases hcases with ⟨-, hfileless | hmemory⟩ | ⟨-, -, hnamed⟩
  · cases hfile.symm.trans hfileless
  · cases hbacking.symm.trans hmemory
  · exact (database?_openNamed hnamed).1

end Disk

namespace Rehearsal

/-! ## The use of a database file -/

/-- What is done with a database file: an operation on the session in it, or closing it and opening
it again. -/
inductive FileUse where
  /-- Read the session. -/
  | get
  /-- Store a session. -/
  | set (s : Session)
  /-- Remove the session. -/
  | clear
  /-- Close the file and open it again. -/
  | reopen

namespace FileUse

/-- The step of a script that uses the file which `path` names. -/
def cue (path : String) : FileUse → StoreCue
  | get => .get
  | set s => .set s
  | clear => .clear
  | reopen => .openFile path

/-- Whether the session is replaced or removed. -/
def replaces : FileUse → Bool
  | set _ | clear => true
  | get | reopen => false

/-- The same operation on a store in memory. -/
def onCell (use : FileUse) (cell : Cell) : Cell :=
  match use with
  | get => (Store.get cell).2
  | set s => (Store.set s cell).2
  | clear => (Store.clear cell).2
  | reopen => cell

end FileUse

/-- A store in memory after some uses. -/
def cellAfter (uses : List (String × FileUse)) (cell : Cell) : Cell :=
  uses.foldl (fun cell use => use.2.onCell cell) cell

namespace StoreTrial

/-- Uses the file that `path` names, at the time `now`. -/
def use (path now : String) (use : FileUse) (t : StoreTrial) : StoreResult × StoreTrial :=
  { t with now := now }.play (use.cue path)

/-- A run of uses, each at its time. Everything but reading is done; reading may fail. -/
inductive Used (path : String) : StoreTrial → List (String × FileUse) → StoreTrial → Prop where
  /-- Nothing is done. -/
  | nil {t : StoreTrial} : Used path t [] t
  /-- One use is followed by others. -/
  | cons {t t' : StoreTrial} {now : String} {use : FileUse} {uses : List (String × FileUse)}
      (hdone : use = .get ∨ (t.use path now use).1 = .done)
      (hrest : Used path (t.use path now use).2 uses t') : Used path t ((now, use) :: uses) t'

/-- The file that `path` names is in use and holds the rows. -/
structure Holds (path : String) (location : Location) (rows : Rows) (t : StoreTrial) : Prop where
  /-- The path names the file at the location. -/
  named : Disk.Names (Disk.locationOf t.directory) (Disk.joinText t.directory path) location
  /-- This file is in use. -/
  chosen : t.chosen = .file location
  /-- Its table has the rows. -/
  table : (t.disk.database? location).bind Database.rows = some rows

/-- What a step tells about the outcome of its operation. -/
def report {α : Type} (onOk : α → StoreResult) : Outcome α → StoreResult
  | .ok value => onOk value
  | .failed message => .failed message
  | .panicked => .unknown

theorem operate_eq {α : Type} {t : StoreTrial} {location : Location} {db : Database}
    (hchosen : t.chosen = .file location) (hdb : t.disk.database? location = some db)
    (onCell : Cell → Outcome α × Cell) (onDatabase : OpenDatabase → Outcome α × OpenDatabase)
    (onOk : α → StoreResult) :
    t.operate onCell onDatabase onOk =
      (report onOk (onDatabase ⟨db, t.now, true⟩).1, { t with
        disk := t.disk.put location (.database (onDatabase ⟨db, t.now, true⟩).2.database) }) := by
  unfold operate database? replace
  simp only [hchosen, hdb, Option.getD_some, Option.isSome_some, if_pos]
  rfl

/-- A file that has been opened has a table, with the rows that the file had before, if any. -/
theorem holds_openFile {t t' : StoreTrial} {path : String} {location : Location}
    (hopen : t.openFile path = (.done, t')) (hfile : t'.chosen = .file location) :
    Holds path location (((t.disk.database? location).bind Database.rows).getD []) t' := by
  unfold openFile at hopen
  split at hopen
  · rename_i disk location' isWritable hopened
    obtain ⟨-, rfl⟩ := Prod.mk.inj hopen
    obtain rfl := ChosenStore.file.inj hfile
    obtain ⟨hnamed, hdb⟩ := Disk.openDatabase_at hopened
    refine ⟨hnamed, rfl, ?_⟩
    show (disk.database? location').bind Database.rows = _
    rw [hdb, Option.bind_some, Database.prepare]
    cases t.disk.database? location' with
    | none => rfl
    | some db => rfl
  · obtain ⟨-, rfl⟩ := Prod.mk.inj hopen
    cases hfile
  · cases hopen

section Uses

variable {path now : String} {location : Location} {rows : Rows} {t : StoreTrial}

theorem Holds.ne_nil (h : Holds path location rows t) : location ≠ [] := by
  rintro rfl
  cases h.table

/-- What is in use is the file at the location, whatever the time is. -/
theorem Holds.operate (h : Holds path location rows t) (now : String) :
    ∃ db, db.rows = some rows ∧
      ∀ {α : Type} (onCell : Cell → Outcome α × Cell)
        (onDatabase : OpenDatabase → Outcome α × OpenDatabase) (onOk : α → StoreResult),
      { t with now := now }.operate onCell onDatabase onOk =
        (report onOk (onDatabase ⟨db, now, true⟩).1, { t with
          now := now
          disk := t.disk.put location (.database (onDatabase ⟨db, now, true⟩).2.database) }) := by
  obtain ⟨db, hdb, hrows⟩ := Option.bind_eq_some_iff.mp h.table
  have hchosen : { t with now := now }.chosen = .file location := h.chosen
  exact ⟨db, hrows, fun onCell onDatabase onOk =>
    operate_eq hchosen hdb onCell onDatabase onOk⟩

/-- The file holds the rows of the database that was put there. -/
theorem Holds.put (h : Holds path location rows t) (now : String) {db : Database} {rows' : Rows}
    (hrows : db.rows = some rows') : Holds path location rows'
      { t with now := now, disk := t.disk.put location (.database db) } where
  named := h.named
  chosen := h.chosen
  table := by rw [Disk.database?_put _ db h.ne_nil, Option.bind_some, hrows]

theorem Holds.get (h : Holds path location rows t) (now : String) :
    Holds path location rows (t.use path now .get).2 ∧
      (rows.IsText → (t.use path now .get).1 = .session rows.session) := by
  obtain ⟨db, hrows, hoperate⟩ := h.operate now
  have hrows' : (OpenDatabase.mk db now true).database.rows = some rows := hrows
  have huse : t.use path now .get = _ := hoperate Store.get Store.get .session
  rw [huse]
  rcases OpenDatabase.get_cases hrows' with ⟨-, hget⟩ | ⟨hblob, _, hget⟩
  · rw [hget]
    exact ⟨h.put now hrows, fun _ => rfl⟩
  · rw [hget]
    exact ⟨h.put now hrows, fun htext => absurd htext hblob⟩

theorem Holds.set (h : Holds path location rows t) {s : Session}
    (hdone : (t.use path now (.set s)).1 = .done) :
    Holds path location (rows.install now s) (t.use path now (.set s)).2 := by
  obtain ⟨db, hrows, hoperate⟩ := h.operate now
  have hrows' : (OpenDatabase.mk db now true).database.rows = some rows := hrows
  have hset := OpenDatabase.set_eq hrows' rfl s
  have huse : t.use path now (.set s) = _ := hoperate (Store.set s) (Store.set s) fun _ => .done
  rw [huse] at hdone ⊢
  split at hset
  · rw [hset] at hdone
    cases hdone
  · rw [hset]
    exact h.put now rfl

theorem Holds.clear (h : Holds path location rows t) (hdone : (t.use path now .clear).1 = .done) :
    Holds path location rows.others (t.use path now .clear).2 := by
  obtain ⟨db, hrows, hoperate⟩ := h.operate now
  have hrows' : (OpenDatabase.mk db now true).database.rows = some rows := hrows
  have hclear := OpenDatabase.clear_eq hrows' rfl
  have huse : t.use path now .clear = _ := hoperate Store.clear Store.clear fun _ => .done
  rw [huse] at hdone ⊢
  split at hclear
  · rw [hclear] at hdone
    cases hdone
  · rw [hclear]
    exact h.put now rfl

/-- A file that is closed and opened again holds the same rows. -/
theorem Holds.reopen (h : Holds path location rows t)
    (hdone : (t.use path now .reopen).1 = .done) :
    Holds path location rows (t.use path now .reopen).2 := by
  have hopen : { t with now := now }.openFile path = (.done, (t.use path now .reopen).2) :=
    Prod.ext hdone rfl
  have hfile : (t.use path now .reopen).2.chosen = .file location := by
    have hdone' := hopen
    unfold openFile at hdone'
    split at hdone'
    · rename_i hopened
      obtain ⟨-, hafter⟩ := Prod.mk.inj hdone'
      obtain ⟨_, hsame⟩ := h.named.opened hopened
      rw [← hafter, (Opened.at.inj hsame).1]
    · rename_i hopened
      obtain ⟨_, hsame⟩ := h.named.opened hopened
      cases hsame
    · cases hdone'
  have hholds := holds_openFile hopen hfile
  rwa [h.table, Option.getD_some] at hholds

/-- What the file holds after a use: the rows that are read afterwards make the session that a store
in memory has after it, and no row of another key is touched. -/
theorem Holds.use (h : Holds path location rows t) {use : FileUse}
    (hdone : use = .get ∨ (t.use path now use).1 = .done) :
    ∃ rows', Holds path location rows' (t.use path now use).2 ∧
      rows'.session = (use.onCell ⟨rows.session⟩).session ∧ rows'.others = rows.others ∧
      (rows.IsText ∨ use.replaces = true → rows'.IsText) := by
  cases use with
  | get => exact ⟨rows, (h.get now).1, rfl, rfl, fun htext =>
      htext.resolve_right (by simp [FileUse.replaces])⟩
  | set s =>
    have hdone' := hdone.resolve_left (by simp)
    exact ⟨rows.install now s, h.set hdone', rows.session_install now s,
      rows.others_install now s, fun _ => rows.isText_install now s⟩
  | clear =>
    have hdone' := hdone.resolve_left (by simp)
    exact ⟨rows.others, h.clear hdone', rows.isText_others.2, rows.others_others,
      fun _ => rows.isText_others.1⟩
  | reopen =>
    have hdone' := hdone.resolve_left (by simp)
    exact ⟨rows, h.reopen hdone', rfl, rfl, fun htext =>
      htext.resolve_right (by simp [FileUse.replaces])⟩

/-- The same after a run of uses. -/
theorem Used.holds {uses : List (String × FileUse)} {t' : StoreTrial} (hused : Used path t uses t')
    (h : Holds path location rows t) :
    ∃ rows', Holds path location rows' t' ∧
      rows'.session = (cellAfter uses ⟨rows.session⟩).session ∧ rows'.others = rows.others ∧
      (rows.IsText ∨ (∃ use ∈ uses, use.2.replaces = true) → rows'.IsText) := by
  induction hused generalizing rows with
  | nil => exact ⟨rows, h, rfl, rfl, fun htext => htext.resolve_right (by simp)⟩
  | @cons _ _ now use uses hdone _ ih =>
    obtain ⟨middle, hmiddle, hsession, hothers, htext⟩ := h.use hdone
    obtain ⟨rows', hrows', hsession', hothers', htext'⟩ := ih hmiddle
    refine ⟨rows', hrows', ?_, hothers'.trans hothers, ?_⟩
    · rw [hsession', hsession]
      rfl
    · rintro (hreadable | ⟨last, hmem, hreplaces⟩)
      · exact htext' (.inl (htext (.inl hreadable)))
      · rcases List.mem_cons.mp hmem with rfl | hmem
        · exact htext' (.inl (htext (.inr hreplaces)))
        · exact htext' (.inr ⟨last, hmem, hreplaces⟩)

end Uses

/-- A database file that holds any rows, which is opened, used and closed and opened again anywhere
between the uses, agrees with a store in memory that starts with the session which its rows make:

* at any time the rows make the session that the store in memory has;
* reading gives this session if the rows that are looked at are texts, and they are if they were in
  the beginning, or if a session has been stored or removed since;
* after a session was stored it is the one that is read, and after it was removed there is none,
  whatever was there before;
* the rows of other keys are never touched. -/
theorem file_agrees_with_cell {t₀ t : StoreTrial} {path : String} {location : Location}
    (hopen : t₀.play (.openFile path) = (.done, t)) (hfile : t.chosen = .file location) :
    let rows := ((t₀.disk.database? location).bind Database.rows).getD []
    (t.disk.database? location).bind Database.rows = some rows ∧
    ∀ uses t', Used path t uses t' →
      let cell := cellAfter uses ⟨rows.session⟩
      ∃ rows', (t'.disk.database? location).bind Database.rows = some rows' ∧
        rows'.session = cell.session ∧ rows'.others = rows.others ∧
        (rows.IsText ∨ (∃ use ∈ uses, use.2.replaces = true) → rows'.IsText) ∧
        ∀ now,
          (rows'.IsText → ∃ answer, (Store.get cell).1 = .ok answer ∧
            (t'.use path now .get).1 = .session answer) ∧
          (∀ s, (t'.use path now (.set s)).1 = .done → ∀ later,
            ((t'.use path now (.set s)).2.use path later .get).1 = .session (some s)) ∧
          ((t'.use path now .clear).1 = .done → ∀ later,
            ((t'.use path now .clear).2.use path later .get).1 = .session none) := by
  intro rows
  have hholds : Holds path location rows t := holds_openFile hopen hfile
  refine ⟨hholds.table, ?_⟩
  intro uses t' hused cell
  obtain ⟨rows', hrows', hsession, hothers, htext⟩ := hused.holds hholds
  refine ⟨rows', hrows'.table, hsession, hothers, htext, fun now => ⟨?_, ?_, ?_⟩⟩
  · intro hreadable
    have hget := (hrows'.get now).2 hreadable
    rw [hsession] at hget
    exact ⟨cell.session, rfl, hget⟩
  · intro s hdone later
    have hget := ((hrows'.set hdone).get later).2 (rows'.isText_install now s)
    rwa [rows'.session_install] at hget
  · intro hdone later
    obtain ⟨hreadable, hnone⟩ := rows'.isText_others
    have hget := ((hrows'.clear hdone).get later).2 hreadable
    rwa [hnone] at hget

/-- Opening a file by its path in the directory, told what opening a database by its full path
does. -/
theorem openFile_eq {t : StoreTrial} {path fullPath : String} {here location : Location}
    {nodes : List (Location × Node)}
    (hhere : Disk.locationOf t.directory = here)
    (hpath : Disk.joinText t.directory path = fullPath)
    (hnodes : (t.disk.openDatabase here fullPath).1.nodes = nodes)
    (hopened : (t.disk.openDatabase here fullPath).2.toOption = some (.at location true)) :
    t.openFile path =
      (.done, { t with disk := ⟨nodes⟩, chosen := .file location, opened := some location }) := by
  unfold openFile
  rw [hhere, hpath]
  generalize t.disk.openDatabase here fullPath = result at hnodes hopened
  obtain ⟨disk, outcome⟩ := result
  cases outcome with
  | error e => cases hopened
  | ok opened =>
    obtain rfl := Option.some.inj hopened
    rw [← hnodes]

/-- A directory with a database file in which a part of a session was left, with a tenant that is no
text, and a row of another key. -/
def leftover : Disk :=
  ⟨[([bytesOf "d"], .directory), ([bytesOf "d", bytesOf "s.db"],
    .database ⟨some [⟨"refresh_token", .text "R0", "t"⟩, ⟨"tenant_id", .blob [0xFF], "t"⟩,
      ⟨"other", .text "x", "t"⟩], [], []⟩)]⟩

theorem file_agrees_with_cell_of_leftover :
    let location : Location := [bytesOf "d", bytesOf "s.db"]
    let t₀ : StoreTrial := ⟨leftover, "/d", "0", .unopened, none⟩
    let t : StoreTrial := ⟨leftover, "/d", "0", .file location, some location⟩
    let stored := (t.use "s.db" "1" (.set ⟨"A1", none, none⟩)).2
    let reopened := (stored.use "s.db" "2" .reopen).2
    t₀.play (.openFile "s.db") = (.done, t) ∧
      (stored.use "s.db" "2" .reopen).1 = .done ∧
      (reopened.use "s.db" "3" .get).1 = .session (some ⟨"A1", none, none⟩) := by
  intro location t₀ t stored reopened
  have hcontains : "/d/s.db".contains '\x00' = false := by
    rw [String.contains_char_eq]
    decide +kernel
  have hpath : Disk.joinText "/d" "s.db" = "/d/s.db" := by decide +kernel
  have hhere : Disk.locationOf "/d" = [bytesOf "d"] := by decide +kernel
  -- Opening the file changes nothing, neither before the session is stored nor after.
  have hopen : t₀.openFile "s.db" = (.done, t) := by
    refine openFile_eq hhere hpath ?_ ?_ <;>
      simp only [Disk.openDatabase, hcontains] <;> decide +kernel
  have hstored : t.use "s.db" "1" (.set ⟨"A1", none, none⟩) = (.done, stored) := rfl
  have hreopened : { stored with now := "2" }.openFile "s.db" =
      (.done, { stored with now := "2" }) := by
    refine openFile_eq hhere hpath ?_ ?_ <;>
      simp only [Disk.openDatabase, hcontains] <;> decide +kernel
  have hused : Used "s.db" t [("1", .set ⟨"A1", none, none⟩), ("2", .reopen)] reopened :=
    .cons (.inr (congrArg Prod.fst hstored)) (.cons (.inr (congrArg Prod.fst hreopened)) .nil)
  obtain ⟨rows, hrows, hsession, hothers, htext, hnow⟩ :=
    (file_agrees_with_cell hopen rfl).2 _ _ hused
  have hreadable := htext (.inr ⟨_, List.mem_cons_self, rfl⟩)
  obtain ⟨answer, hcell, hget⟩ := (hnow "3").1 hreadable
  obtain rfl := Outcome.ok.inj hcell
  exact ⟨hopen, congrArg Prod.fst hreopened, hget⟩

end StoreTrial

end Rehearsal

end BearerClient
