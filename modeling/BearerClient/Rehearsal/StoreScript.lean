import BearerClient.Disk.Opening

/-!
# Scripts for stores

A script that opens stores in a fresh directory and uses them, and that can look at and change what
is behind them: files, and, in the database file that was opened last, rows and what the database
refuses to do.
-/

namespace BearerClient.Rehearsal

/-- The store that a script uses. -/
inductive ChosenStore where
  /-- None, or one that could not be opened. -/
  | unopened
  /-- One in memory. -/
  | memory (cell : Cell)
  /-- A database in memory. -/
  | transient (db : Database)
  /-- The database file at a location. -/
  | file (location : Location)

/-- One step of a script for stores. -/
inductive StoreCue where
  /-- Choose a store in memory with a session. -/
  | memory (s : Option Session)
  /-- Choose a database in memory. -/
  | transient
  /-- Open a database file. -/
  | openFile (path : String)
  /-- Store a session. -/
  | set (s : Session)
  /-- Read the session. -/
  | get
  /-- Remove the session. -/
  | clear
  /-- Ask when the session was written. -/
  | lastUpdated
  /-- Make a directory. -/
  | makeDirectory (path : String)
  /-- Make a file of some bytes. -/
  | makeFile (path : String) (size : Nat)
  /-- Ask whether there is something at a path. -/
  | exists (path : String)
  /-- Put a row into the table. -/
  | putRow (row : Row)
  /-- Delete a row of the table. -/
  | deleteRow (key : String)
  /-- List the rows of the table. -/
  | rows
  /-- Drop the table. -/
  | dropTable
  /-- Refuse to delete the row with a key from now on. -/
  | refuseDelete (key : String)
  /-- Refuse to write the row with a key from now on. -/
  | refuseWrite (key : String)
  /-- Something that is no step. -/
  | unknown

/-- The result of a step of a script for stores. -/
inductive StoreResult where
  /-- It was done. -/
  | done
  /-- It failed. -/
  | failed (message : String)
  /-- There is no store. -/
  | noStore
  /-- The store does not remember when it was written. -/
  | noClock
  /-- A session, or that there is none. -/
  | session (s : Option Session)
  /-- When the session was written, or that there is none. -/
  | updated (t : Option Timestamp)
  /-- Yes or no. -/
  | flag (value : Bool)
  /-- The rows of the table, by key. -/
  | rows (entries : List (String × RowValue))
  /-- The step is none. -/
  | unknown

/-- A directory and the store that is in use. -/
structure StoreTrial where
  /-- The files. -/
  disk : Disk
  /-- The text of the path of the directory. -/
  directory : String
  /-- The time now. -/
  now : String
  /-- The store in use. -/
  chosen : ChosenStore
  /-- Where the database file is that was opened last. -/
  opened : Option Location

namespace StoreTrial

/-! ## The store in use -/

/-- The database in use, if it is one. A file that was overwritten is one without a table. -/
def database? (t : StoreTrial) : Option Database :=
  match t.chosen with
  | .transient db => some db
  | .file location => some ((t.disk.database? location).getD .empty)
  | _ => none

/-- Puts a database in place of the one in use. A file that was overwritten stays as it is. -/
def replace (db : Database) (t : StoreTrial) : StoreTrial :=
  match t.chosen with
  | .transient _ => { t with chosen := .transient db }
  | .file location =>
    if (t.disk.database? location).isSome then
      { t with disk := t.disk.put location (.database db) }
    else t
  | _ => t

/-- Runs an operation on the store in use. -/
def operate {α : Type} (onCell : Cell → Outcome α × Cell)
    (onDatabase : OpenDatabase → Outcome α × OpenDatabase) (onOk : α → StoreResult)
    (t : StoreTrial) : StoreResult × StoreTrial :=
  let result : Outcome α → StoreResult
    | .ok value => onOk value
    | .failed message => .failed message
    | .panicked => .unknown
  match t.chosen, t.database? with
  | .memory cell, _ =>
    let (outcome, cell) := onCell cell
    (result outcome, { t with chosen := .memory cell })
  | _, some db =>
    let (outcome, s) := onDatabase ⟨db, t.now, true⟩
    (result outcome, t.replace s.database)
  | _, none => (.noStore, t)

/-- When the session was written. -/
def lastUpdated (t : StoreTrial) : StoreResult :=
  match t.chosen, t.database? with
  | .memory _, _ => .noClock
  | _, some db =>
    match db.lastUpdated with
    | .ok updated => .updated updated
    | .error message => .failed message
  | _, none => .noStore

/-- Opens a database file in the directory. -/
def openFile (path : String) (t : StoreTrial) : StoreResult × StoreTrial :=
  match t.disk.openDatabase (Disk.locationOf t.directory) (Disk.joinText t.directory path) with
  | (disk, .ok (.at location _)) =>
    (.done, { t with disk := disk, chosen := .file location, opened := some location })
  | (disk, .ok .transient) =>
    (.done, { t with disk := disk, chosen := .transient Database.empty.prepare })
  | (disk, .error e) => (.failed e.message, { t with disk := disk, chosen := .unopened })

/-! ## The file behind it -/

/-- The database in the file that was opened last; a failure if the file was overwritten by
something else. -/
def fileDatabase (location : Location) (t : StoreTrial) : Except String Database :=
  match t.disk.node? location with
  | some (.database db) => .ok db
  | some (.file size) => if size ≤ 1 then .ok .empty else .error "file is not a database"
  | _ => .error "unable to open database file"

/-- The name of the table. -/
def tableName : String := "session_kv"

/-- The name of the table where a rule about it is made. -/
def qualifiedTableName : String := "main." ++ tableName

/-- Looks at the table of the file that was opened last, or changes what is there. The table is told
by the given name if it is not there. -/
def alter (table : String) (change : Database → Rows → Except String (Database × StoreResult))
    (t : StoreTrial) : StoreResult × StoreTrial :=
  match t.opened with
  | none => (.noStore, t)
  | some location =>
    let outcome := do
      let db ← t.fileDatabase location
      match db.rows with
      | none => .error ("no such table: " ++ table)
      | some rows => change db rows
    match outcome with
    | .ok (db, result) => (result, { t with disk := t.disk.put location (.database db) })
    | .error message => (.failed message, t)

/-- What a database tells when it refuses to touch a row. -/
def refusal : String := "blocked"

/-- Puts a row into the table, unless that is refused. -/
def putRow (row : Row) (db : Database) (rows : Rows) : Except String (Database × StoreResult) :=
  if db.unwritable.contains row.key then .error refusal
  else .ok ({ db with rows := some (rows.put row) }, .done)

/-- Deletes the row with a key if there is one, unless that is refused. -/
def deleteRow (key : String) (db : Database) (rows : Rows) :
    Except String (Database × StoreResult) :=
  if (rows.find? key).isSome && db.undeletable.contains key then .error refusal
  else .ok ({ db with rows := some (rows.erase key) }, .done)

/-- Lists rows by key. -/
def listRows (rows : Rows) : StoreResult :=
  .rows ((rows.map fun row => (row.key, row.value)).mergeSort fun a b => !(b.1 < a.1))

/-! ## Files -/

/-- Changes the files at a path in the directory. -/
def onFiles (path : String)
    (change : Location → String → Disk → Disk × Except FileError Unit) (t : StoreTrial) :
    StoreResult × StoreTrial :=
  let (disk, outcome) :=
    change (Disk.locationOf t.directory) (Disk.joinText t.directory path) t.disk
  (match outcome with
    | .ok () => .done
    | .error e => .failed e.message, { t with disk := disk })

/-- Makes a file, and the directories that hold it. -/
def makeFile (size : Nat) (here : Location) (path : String) (disk : Disk) :
    Disk × Except FileError Unit :=
  let (disk, made) := match Disk.parentText? path with
    | some parent => disk.makePath here parent
    | none => (disk, .ok ())
  match made with
  | .error e => (disk, .error e)
  | .ok () =>
    match disk.writeFile here (bytesOf path) size with
    | .ok disk => (disk, .ok ())
    | .error e => (disk, .error e)

/-- Whether there is something at a path in the directory. -/
def isThere (path : String) (t : StoreTrial) : Bool :=
  let found := t.disk.find (Disk.locationOf t.directory)
    (bytesOf (Disk.joinText t.directory path))
  found.toOption.isSome

/-! ## Steps -/

/-- Takes a step of the script. -/
def play (t : StoreTrial) : StoreCue → StoreResult × StoreTrial
  | .memory s => (.done, { t with chosen := .memory ⟨s⟩ })
  | .transient => (.done, { t with chosen := .transient Database.empty.prepare })
  | .openFile path => t.openFile path
  | .set s => t.operate (Store.set s) (Store.set s) fun _ => .done
  | .get => t.operate Store.get Store.get .session
  | .clear => t.operate Store.clear Store.clear fun _ => .done
  | .lastUpdated => (t.lastUpdated, t)
  | .makeDirectory path => t.onFiles path fun here path disk => disk.makePath here path
  | .makeFile path size => t.onFiles path (makeFile size)
  | .exists path => (.flag (t.isThere path), t)
  | .putRow row => t.alter tableName (putRow row)
  | .deleteRow key => t.alter tableName (deleteRow key)
  | .rows => t.alter tableName fun db rows => .ok (db, listRows rows)
  | .dropTable => t.alter tableName fun _ _ => .ok (.empty, .done)
  | .refuseDelete key =>
    t.alter qualifiedTableName fun db _ =>
      .ok ({ db with undeletable := key :: db.undeletable }, .done)
  | .refuseWrite key =>
    t.alter qualifiedTableName fun db _ =>
      .ok ({ db with unwritable := key :: db.unwritable }, .done)
  | .unknown => (.unknown, t)

/-- Runs a script; gives the result of each step. -/
def perform : StoreTrial → List StoreCue → List StoreResult
  | _, [] => []
  | t, cue :: cues =>
    let (result, t) := t.play cue
    result :: perform t cues

end StoreTrial

/-- A fresh directory with no store in use. -/
def StoreTrial.new (directory now : String) : StoreTrial where
  disk := ((Disk.mk []).makePath [] directory).1
  directory := directory
  now := now
  chosen := .unopened
  opened := none

end BearerClient.Rehearsal
