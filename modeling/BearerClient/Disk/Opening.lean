import BearerClient.Disk.DatabaseName

/-!
# Opening databases

Opening a database creates the directories above it, the file, and the table in it, as far as they
are not there. Unlike other paths, the path of a database is cleaned of dots before it is followed,
so a directory that it leaves again need not be there. Changes are kept in a journal beside the
file until they are complete, so the journal must be possible too.
-/

namespace BearerClient

/-- A database that was opened: in a file, or in memory and gone with the program. -/
inductive Opened where
  /-- The database file at a location, which may be written or not. -/
  | at (location : Location) (isWritable : Bool)
  /-- A database in memory. -/
  | transient
  deriving DecidableEq, Repr

/-- Why a database cannot be opened. -/
inductive OpenError where
  /-- The directory that is to hold it cannot be created. -/
  | noDirectory (path : String)
  /-- There is no file that can be opened. -/
  | noFile (path : String)
  /-- The file is not a database, or the table cannot be created in it. -/
  | noTable
  deriving DecidableEq, Repr

/-- What is told about a database that cannot be opened. -/
def OpenError.message : OpenError → String
  | noDirectory path => "Failed to create session directory: " ++ path
  | noFile path => "Failed to open session database: " ++ path
  | noTable => "Failed to create session_kv table"

namespace Disk

/-! ## Places -/

/-- How much longer the path of a journal is than that of its database. -/
def journalSuffix : FileName := bytesOf "-journal"

/-- What stands behind the name of a database in that of its log of changes. -/
def logSuffix : FileName := bytesOf "-wal"

/-- The longest path of a database or its journal, with the directories above it. -/
def maxDatabasePathLength : Nat := 512

/-- The length of the path that leads to a location from the root. -/
def pathLength (location : Location) : Nat :=
  (location.map (·.length + 1)).foldl (· + ·) 0

/-- The location beside another one whose name is longer by a suffix. -/
def beside (location : Location) (suffix : FileName) : Location :=
  location.dropLast ++ [location.getLast?.getD [] ++ suffix]

/-- Follows one name of the path of a database. What is missing is not minded. -/
def cleanStep? (disk : Disk) (here : Location) (name : FileName) : Option Location :=
  if name = sameName then some here
  else if name = parentName then some here.dropLast
  else
    let location := here ++ [name]
    if maxDatabasePathLength ≤ pathLength location then none
    else match disk.walk [] location with
      | .ok _ | .error .missing => some location
      | .error _ => none

/-- The location of a database, seen from a directory; none if there can be no file. -/
def databaseLocation? (here : Location) (path : List UInt8) (disk : Disk) : Option Location := do
  let location ← (namesOf path).foldlM (cleanStep? disk) (startOf here path)
  let length := pathLength location + journalSuffix.length
  if location.isEmpty || maxDatabasePathLength < length then none else some location

/-! ## Tables -/

/-- The disk once what an interrupted change has left beside a database is cleared away; none if
that cannot be done. -/
def clearJournal? (location : Location) (isReadOnly : Bool) (disk : Disk) : Option Disk :=
  let journal := beside location journalSuffix
  if disk.node? (beside location logSuffix) = some .directory then none
  else match disk.node? journal with
    | none | some (.file 0) => some disk
    | some .directory => none
    | some _ => if isReadOnly then none else some (disk.erase journal)

/-- Creates the table in a database file that has none. -/
def makeTable (location : Location) (isReadOnly : Bool) (db : Database) (disk : Disk) :
    Disk × Except OpenError Opened :=
  if isReadOnly || maxNameLength < (location.getLast?.getD []).length + journalSuffix.length then
    (disk, .error .noTable)
  else
    ((disk.erase (beside location journalSuffix)).put location (.database db.prepare),
      .ok (.at location true))

/-- Opens a file as a database. A file of one byte is as good as an empty one. -/
def openFile (location : Location) (name : DatabaseName) (disk : Disk) :
    Disk × Except OpenError Opened :=
  let cleared := if name.isImmutable then some disk else disk.clearJournal? location name.isReadOnly
  match cleared with
  | none => (disk, .error .noTable)
  | some disk =>
    match disk.node? location with
    | some (.database db) =>
      if db.rows.isSome then (disk, .ok (.at location (!name.isReadOnly)))
      else disk.makeTable location name.isReadOnly db
    | some (.file size) =>
      if size ≤ 1 then disk.makeTable location name.isReadOnly .empty
      else (disk, .error .noTable)
    | _ => (disk, .error .noTable)

/-! ## Databases -/

/-- Opens the file of a database, which is created if its name allows it. -/
def openNamed (here : Location) (path : String) (name : DatabaseName) (disk : Disk) :
    Disk × Except OpenError Opened :=
  let failure := (disk, .error (.noFile path))
  match disk.databaseLocation? here name.path with
  | none => failure
  | some location =>
    if name.permissionsOf.any fun other => (disk.find here other).toOption.isNone then failure
    else match disk.node? location with
      | some .directory => failure
      | some _ => disk.openFile location name
      | none =>
        match name.mode, disk.walk [] location with
        | .create, .ok _ => (disk.put location (.file 0)).openFile location name
        | _, _ => failure

/-- Creates the directory that is to hold a file, if its path names one. -/
def makeParent (here : Location) (path : String) (disk : Disk) : Disk × Except OpenError Unit :=
  match parentText? path with
  | none | some "" => (disk, .ok ())
  | some parent =>
    let (disk, made) := disk.makePath here parent
    (disk, made.mapError fun _ => .noDirectory parent)

/-- Opens the database with a name. A failure may leave new directories and a new file behind. -/
def openDatabase (here : Location) (path : String) (disk : Disk) :
    Disk × Except OpenError Opened :=
  let (disk, made) := disk.makeParent here path
  match made with
  | .error e => (disk, .error e)
  | .ok () =>
    match if path.contains '\x00' then none else DatabaseName.ofText? path with
    | none => (disk, .error (.noFile path))
    | some name =>
      let inMemory (isReadOnly : Bool) : Disk × Except OpenError Opened :=
        (disk, if isReadOnly then .error .noTable else .ok .transient)
      if name.isFileless then inMemory (name.mode = .readOnly)
      else match name.backing with
        | .memory => inMemory name.isReadOnly
        | .disk => disk.openNamed here path name

end Disk

end BearerClient
