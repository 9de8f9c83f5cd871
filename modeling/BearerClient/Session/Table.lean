import BearerClient.Session.Store
import BearerClient.Timestamp

/-!
# Sessions in a database

A database file keeps the session in a table of keys and values, one row for each field that is
present, and remembers when a row was written. Rows under other keys are nobody's business here and
are never touched. Replacing the session is all or nothing: if the database refuses one row, every
row stays as it was.

The database may refuse to delete or to write the row of certain keys, its values may be bytes that
are not text, and the table may be gone altogether.
-/

namespace BearerClient

/-- What a row holds. -/
inductive RowValue where
  /-- A text. -/
  | text (value : String)
  /-- Bytes, which cannot be read as a text. -/
  | blob (bytes : List UInt8)
  deriving DecidableEq, Repr

/-- A row of the table. -/
structure Row where
  /-- The key; no two rows have the same. -/
  key : String
  /-- The value. -/
  value : RowValue
  /-- When the row was written. -/
  updatedAt : String
  deriving DecidableEq, Repr

/-- The rows of a table, by key. -/
abbrev Rows := List Row

namespace Rows

/-- The row with a key. -/
def find? (rows : Rows) (key : String) : Option Row := List.find? (·.key = key) rows

/-- Puts a row in place of the one with its key, or at the end. -/
def put (row : Row) : Rows → Rows
  | [] => [row]
  | r :: rest => if r.key = row.key then row :: rest else r :: put row rest

/-- The rows without the one with a key. -/
def erase (key : String) (rows : Rows) : Rows := rows.filter (·.key ≠ key)

end Rows

/-- A database file. -/
structure Database where
  /-- The rows of the table, if it exists. -/
  rows : Option Rows
  /-- The keys whose row may not be deleted. -/
  undeletable : List String
  /-- The keys whose row may not be written. -/
  unwritable : List String
  deriving DecidableEq, Repr

namespace Database

/-- The key of the access token. -/
def accessKey : String := "access_token"

/-- The key of the refresh token. -/
def refreshKey : String := "refresh_token"

/-- The key of the tenant. -/
def tenantKey : String := "tenant_id"

/-- A database file without a table. -/
def empty : Database := ⟨none, [], []⟩

/-- The database with its table, which is created if it does not exist. -/
def prepare (db : Database) : Database := { db with rows := some (db.rows.getD []) }

/-! ## Reading -/

/-- Reads the text under a key; absent if there is no such row. -/
def readKey (db : Database) (key : String) : Except String (Option String) :=
  let failure := "Failed to read session key: " ++ key
  match db.rows with
  | none => .error failure
  | some rows =>
    match rows.find? key with
    | none => .ok none
    | some row =>
      match row.value with
      | .text value => .ok (some value)
      | .blob _ => .error failure

/-- Reads the session; there is none without an access token. -/
def session (db : Database) : Except String (Option Session) := do
  match ← db.readKey accessKey with
  | none => return none
  | some access =>
    return some ⟨access, ← db.readKey refreshKey, ← db.readKey tenantKey⟩

/-- When the access token was written. -/
def lastUpdated (db : Database) : Except String (Option Timestamp) :=
  match db.rows with
  | none => .error "Failed to read session timestamp"
  | some rows =>
    match rows.find? accessKey with
    | none => .ok none
    | some row =>
      match Timestamp.parse? row.updatedAt with
      | none => .error ("Failed to parse session timestamp: " ++ row.updatedAt)
      | some t => .ok (some t)

/-! ## Writing -/

/-- What is told when the row under a key cannot be written. -/
def writeFailure (key : String) : String := "Failed to write session key: " ++ key

/-- What is told when the session cannot be removed. -/
def removeFailure : String := "Failed to clear session"

/-- Writes a text under a key, at the time `now`. -/
def writeKey (now key value : String) (db : Database) : Except String Database :=
  match db.rows with
  | none => .error (writeFailure key)
  | some rows =>
    if db.unwritable.contains key then .error (writeFailure key)
    else .ok { db with rows := some (rows.put ⟨key, .text value, now⟩) }

/-- Deletes the row under a key, if there is one. -/
def deleteKey (key : String) (db : Database) : Except String Database :=
  match db.rows with
  | none => .error ("Failed to delete session key: " ++ key)
  | some rows =>
    if (rows.find? key).isSome && db.undeletable.contains key then
      .error ("Failed to delete session key: " ++ key)
    else .ok { db with rows := some (rows.erase key) }

/-- Makes the row under a key say what the field of a session says. -/
def storeField (now key : String) (field : Option String) (db : Database) :
    Except String Database :=
  match field with
  | some value => db.writeKey now key value
  | none => db.deleteKey key

/-- The database after a session was stored, at the time `now`. -/
def replaceSession (now : String) (s : Session) (db : Database) : Except String Database := do
  let db ← db.storeField now accessKey (some s.accessToken)
  let db ← db.storeField now refreshKey s.refreshToken
  db.storeField now tenantKey s.tenantId

/-- The keys that make up a session. -/
def sessionKeys : List String := [accessKey, refreshKey, tenantKey]

/-- The database after the session was removed, whatever parts of it there were. -/
def removeSession (db : Database) : Except String Database :=
  match db.rows with
  | none => .error removeFailure
  | some rows =>
    if sessionKeys.any fun key => (rows.find? key).isSome && db.undeletable.contains key then
      .error removeFailure
    else .ok { db with rows := some (rows.filter fun row => !sessionKeys.contains row.key) }

end Database

/-- A database that is open for use, with the time that writes will carry. -/
structure OpenDatabase where
  /-- The database. -/
  database : Database
  /-- The time now. -/
  now : String
  /-- Whether the database can be written. -/
  isWritable : Bool
  deriving DecidableEq, Repr

namespace OpenDatabase

/-- How a change of the database ends; one that fails changes nothing. -/
def commit (change : Database → Except String Database) (s : OpenDatabase) :
    Outcome Unit × OpenDatabase :=
  match change s.database with
  | .ok db => (.ok (), { s with database := db })
  | .error message => (.failed message, s)

instance : Store OpenDatabase where
  get s :=
    match s.database.session with
    | .ok session => (.ok session, s)
    | .error message => (.failed message, s)
  set session s :=
    if s.isWritable then s.commit (Database.replaceSession s.now session)
    else (.failed (Database.writeFailure Database.accessKey), s)
  clear s :=
    if s.isWritable then s.commit Database.removeSession else (.failed Database.removeFailure, s)

end OpenDatabase

end BearerClient
