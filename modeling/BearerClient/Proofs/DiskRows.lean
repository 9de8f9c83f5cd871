import BearerClient.Program
import BearerClient.Proofs.Reopening

/-!
# The rows on a disk

Opening a session database may create directories, a file and a table, and clears away what an
interrupted change has left beside the file. However it ends, no row of a database is changed by it,
unless a database stands where the journal of the session database belongs (`rows_openDatabase`).
What a run of the program does to the rows beyond that is what its command does to the database that
is open (`Machine.run_of_opened`).
-/

namespace BearerClient

namespace Disk

/-- The rows of the database at a location; none if there is no database, or no table in it. -/
def rowsAt (disk : Disk) (location : Location) : Rows :=
  ((disk.database? location).bind Database.rows).getD []

/-- The rows on a disk are those on another one, but for the place of the journal of the database at
`location`, which may have been cleared. -/
def KeepsRows (location : Location) (before after : Disk) : Prop :=
  ∀ other, after.rowsAt other = before.rowsAt other ∨
    other = beside location journalSuffix ∧ after.rowsAt other = []

variable {location : Location} {disk disk' : Disk}

theorem rowsAt_of_database? {other : Location}
    (h : disk'.database? other = disk.database? other) : disk'.rowsAt other = disk.rowsAt other := by
  rw [rowsAt, rowsAt, h]

theorem rowsAt_nil (disk : Disk) : disk.rowsAt [] = [] := rfl

theorem KeepsRows.of_eq (h : ∀ other, disk'.rowsAt other = disk.rowsAt other) :
    KeepsRows location disk disk' :=
  fun other => .inl (h other)

theorem KeepsRows.refl (location : Location) (disk : Disk) : KeepsRows location disk disk :=
  .of_eq fun _ => rfl

theorem KeepsRows.trans {disk'' : Disk} (h : KeepsRows location disk disk')
    (h' : KeepsRows location disk' disk'') : KeepsRows location disk disk'' := by
  intro other
  rcases h' other with hsame' | hjournal'
  · rcases h other with hsame | ⟨hjournal, hempty⟩
    · exact .inl (hsame'.trans hsame)
    · exact .inr ⟨hjournal, hsame'.trans hempty⟩
  · exact .inr hjournal'

/-- A database has its own rows, however its journal is cleared away. -/
theorem KeepsRows.own (h : KeepsRows location disk disk') :
    disk'.rowsAt location = disk.rowsAt location := by
  rcases h location with hsame | ⟨hjournal, -⟩
  · exact hsame
  -- the root has no rows, and any other location differs from the one beside it
  · by_cases hroot : location = []
    · rw [hroot, rowsAt_nil, rowsAt_nil]
    · exact absurd hjournal (beside_ne hroot (by decide))

/-! ## Changes of the disk -/

theorem node?_erase_self (disk : Disk) {location : Location} (h : location ≠ []) :
    (disk.erase location).node? location = none := by
  have hroot : ¬ location.isEmpty = true := by simpa using h
  rw [node?, if_neg hroot, List.lookup_eq_none_iff]
  intro entry hmem
  have hne : entry.1 ≠ location := of_decide_eq_true (List.mem_filter.mp hmem).2
  exact bne_iff_ne.mpr (Ne.symm hne)

theorem keepsRows_erase (location : Location) (disk : Disk) :
    KeepsRows location disk (disk.erase (beside location journalSuffix)) := by
  intro other
  by_cases hother : other = beside location journalSuffix
  · refine .inr ⟨hother, ?_⟩
    by_cases hroot : other = []
    · rw [hroot, rowsAt_nil]
    · rw [← hother, rowsAt, database?, node?_erase_self disk hroot]
      rfl
  · exact .inl (rowsAt_of_database? (database?_of_node? (disk.node?_erase hother)))

theorem rowsAt_put_cases (location : Location) (db : Database) (disk : Disk) (other : Location) :
    (disk.put location (.database db)).rowsAt other = disk.rowsAt other ∨
      other = location ∧ (disk.put location (.database db)).rowsAt other = db.rows.getD [] := by
  by_cases hother : other = location
  · by_cases hroot : other = []
    · rw [hroot, rowsAt_nil, rowsAt_nil]
      exact .inl rfl
    · refine .inr ⟨hother, ?_⟩
      rw [← hother, rowsAt, database?_put disk db hroot]
      rfl
  · exact .inl (rowsAt_of_database? (database?_of_node? (disk.node?_put_of_ne _ hother)))

/-- Putting a database in place of one with the same rows keeps the rows. -/
theorem rowsAt_put {db : Database} (h : db.rows.getD [] = disk.rowsAt location)
    (other : Location) :
    (disk.put location (.database db)).rowsAt other = disk.rowsAt other := by
  rcases rowsAt_put_cases location db disk other with hsame | ⟨rfl, hrows⟩
  · exact hsame
  · exact hrows.trans h

theorem keepsRows_clearJournal? {isReadOnly : Bool}
    (h : disk.clearJournal? location isReadOnly = some disk') : KeepsRows location disk disk' := by
  unfold clearJournal? at h
  split at h
  · cases h
  · dsimp only at h
    split at h
    · rw [Option.some.inj h]
      exact .refl location disk'
    · rw [Option.some.inj h]
      exact .refl location disk'
    · cases h
    · split at h
      · cases h
      · rw [← Option.some.inj h]
        exact keepsRows_erase location disk

/-! ## Opening -/

/-- Creating the table in a database that has none adds no row. -/
theorem keepsRows_makeTable (hlocation : location ≠ []) (isReadOnly : Bool) {db : Database}
    (hrows : db.rows = none) (hnone : disk.rowsAt location = []) :
    KeepsRows location disk (disk.makeTable location isReadOnly db).1 := by
  unfold makeTable
  split
  · exact .refl location disk
  · have hne : location ≠ beside location journalSuffix := beside_ne hlocation (by decide)
    have herase : (disk.erase (beside location journalSuffix)).rowsAt location = [] :=
      (rowsAt_of_database? (database?_of_node? (disk.node?_erase hne))).trans hnone
    refine (keepsRows_erase location disk).trans (.of_eq (rowsAt_put ?_))
    rw [herase, Database.prepare, hrows]
    rfl

theorem keepsRows_openFile (hlocation : location ≠ []) (name : DatabaseName) (disk : Disk) :
    KeepsRows location disk (disk.openFile location name).1 := by
  unfold openFile
  dsimp only
  split
  · exact .refl location disk
  · rename_i cleared hcleared
    have hkept : KeepsRows location disk cleared := by
      split at hcleared
      · rw [Option.some.inj hcleared]
        exact .refl location cleared
      · exact keepsRows_clearJournal? hcleared
    refine hkept.trans ?_
    split
    · rename_i db hnode
      split
      · exact .refl location cleared
      · rename_i hrows
        have hrows : db.rows = none := by simpa using hrows
        refine keepsRows_makeTable hlocation _ hrows ?_
        rw [rowsAt, database?, hnode]
        simp [hrows]
    · rename_i size hnode
      split
      · refine keepsRows_makeTable hlocation _ rfl ?_
        rw [rowsAt, database?, hnode]
        rfl
      · exact .refl location cleared
    · exact .refl location cleared

theorem keepsRows_openNamed (here : Location) (path : String) (name : DatabaseName) (disk : Disk) :
    KeepsRows (namedLocation here name) disk (disk.openNamed here path name).1 := by
  unfold openNamed
  dsimp only
  split
  · exact .refl _ disk
  · rename_i location hlocation
    obtain ⟨rfl, hroot⟩ := databaseLocation?_eq_some hlocation
    split
    · exact .refl _ disk
    · split
      · exact .refl _ disk
      · exact keepsRows_openFile hroot name disk
      · rename_i hnode
        split
        · refine KeepsRows.trans (.of_eq fun other => ?_) (keepsRows_openFile hroot name _)
          exact rowsAt_of_database? (database?_put_of_none hnode (by simp) other)
        · exact .refl _ disk

/-- However opening a database ends, every database has the rows that it had before, but for what
stands where the journal of the opened database belongs. -/
theorem rows_openDatabase (here : Location) (path : String) (disk : Disk) :
    (∀ other, (disk.openDatabase here path).1.rowsAt other = disk.rowsAt other) ∨
      ∃ location, Names here path location ∧
        KeepsRows location disk (disk.openDatabase here path).1 := by
  have hparent : ∀ other, (disk.makeParent here path).1.rowsAt other = disk.rowsAt other :=
    fun other => rowsAt_of_database? (database?_makeParent here path disk other)
  unfold openDatabase
  generalize disk.makeParent here path = made at hparent ⊢
  obtain ⟨above, outcome⟩ := made
  cases outcome with
  | error e => exact .inl hparent
  | ok made =>
    dsimp only
    split
    · exact .inl hparent
    · rename_i name hname
      have hofText : DatabaseName.ofText? path = some name := by
        split at hname
        · cases hname
        · exact hname
      split
      · exact .inl hparent
      · rename_i hfile
        split
        · exact .inl hparent
        · rename_i hbacking
          refine .inr ⟨namedLocation here name, ⟨name, hofText, by simpa using hfile, hbacking,
            rfl⟩, ?_⟩
          exact KeepsRows.trans (.of_eq hparent) (keepsRows_openNamed here path name above)

/-- The text of a path names one database file at most. -/
theorem Names.unique {here : Location} {path : String} {location location' : Location}
    (h : Names here path location) (h' : Names here path location') : location = location' := by
  obtain ⟨name, hname, -, -, rfl⟩ := h
  obtain ⟨name', hname', -, -, rfl⟩ := h'
  rw [Option.some.inj (hname.symm.trans hname')]

end Disk

/-! ## Runs of the program -/

namespace Program.Machine

open CommandLine (Command Environment)

/-- A run of the program has left the rows of the databases on the disk as they were: those of the
session database, which `path` names, and those of any other database that does not stand where the
journal of the session database belongs. -/
structure KeepsRows (path : String) (before after : Machine) : Prop where
  /-- The session database has the same rows. -/
  session : ∀ location, Disk.Names before.here path location →
    after.disk.rowsAt location = before.disk.rowsAt location
  /-- Other databases have the same rows. -/
  others : ∀ other, (∀ location, Disk.Names before.here path location →
    other ≠ Disk.beside location Disk.journalSuffix) →
      after.disk.rowsAt other = before.disk.rowsAt other

variable {env : Environment} {arguments : List String} {m : Machine} {settings : Settings}
  {command : Command}

theorem keepsRows_of_openDatabase {path : String} {disk : Disk} (backend : Backend)
    (h : ∀ other, disk.rowsAt other = (m.disk.openDatabase m.here path).1.rowsAt other) :
    KeepsRows path m { m with disk := disk, backend := backend } := by
  rcases Disk.rows_openDatabase m.here path m.disk with hsame | ⟨location, hnames, hkeeps⟩
  · exact ⟨fun location _ => (h location).trans (hsame location),
      fun other _ => (h other).trans (hsame other)⟩
  · constructor
    · intro session hsession
      rw [hsession.unique hnames]
      exact (h location).trans hkeeps.own
    · intro other hother
      rcases hkeeps other with hsame | ⟨hjournal, -⟩
      · exact (h other).trans hsame
      · exact absurd hjournal (hother location hnames)

/-- A run whose command line is not in order does nothing. -/
theorem run_of_plan_error {output : Output} (hplan : plan env arguments = .error output) :
    run env arguments m = (output, [], m) := by
  simp only [run, hplan]

theorem run_of_open_error {disk : Disk} {e : OpenError}
    (hplan : plan env arguments = .ok (settings, command))
    (hopen : m.disk.openDatabase m.here settings.sessionDbFile = (disk, .error e)) :
    run env arguments m =
      (fail ⟨e.message, some "the session database cannot be used"⟩, [], { m with disk := disk }) := by
  simp only [run, hplan, hopen]

/-- The database that a run works with once its session database is open: the one that stands at the
opened location, or a new one in memory. -/
def openedDatabase (m : Machine) (disk : Disk) : Opened → OpenDatabase
  | .at location isWritable =>
    ⟨(disk.database? location).getD Database.empty.prepare, m.now, isWritable⟩
  | .transient => ⟨Database.empty.prepare, m.now, true⟩

/-- The disk once a run is over that has opened its session database. -/
def storedDisk (disk : Disk) (database : OpenDatabase) : Opened → Disk
  | .at location true => disk.put location (.database database.database)
  | _ => disk

theorem run_of_opened {disk : Disk} {opened : Opened}
    (hplan : plan env arguments = .ok (settings, command))
    (hopen : m.disk.openDatabase m.here settings.sessionDbFile = (disk, .ok opened)) :
    let effect := execute settings command (m.openedDatabase disk opened) m.backend
    run env arguments m = (effect.output, effect.sent,
      { m with disk := storedDisk disk effect.database opened, backend := effect.backend }) := by
  cases opened with
  | transient => simp only [run, hplan, hopen, openedDatabase, storedDisk]
  | «at» location isWritable =>
    cases isWritable with
    | true => simp only [run, hplan, hopen, openedDatabase, storedDisk]
    | false => simp only [run, hplan, hopen, openedDatabase, storedDisk]

end Program.Machine

end BearerClient
