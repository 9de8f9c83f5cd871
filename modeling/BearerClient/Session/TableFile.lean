import BearerClient.Json.Parser
import BearerClient.Json.Printer
import BearerClient.Session.Table

/-!
# The text of a database file

Between runs a database is kept as a JSON text: the rows of its table, or `null` when the table is
gone, then the keys whose row may not be deleted, then those whose row may not be written. A row is
its key, its value and when it was written; a value that is not a text is written byte by byte.

Main statement: `Database.ofJson?_toJson`, what was written is what is read.
-/

namespace BearerClient

/-! ## Parts of a database -/

/-- A byte, from its number. -/
def byteOfJson? : Json → Option UInt8
  | .int (.ofNat n) => if n < 256 then some (UInt8.ofNat n) else none
  | _ => none

/-- The items of an array, each read by `read?`. -/
def itemsOfJson? {α : Type} (read? : Json → Option α) : Json → Option (List α)
  | .arr items => items.mapM read?
  | _ => none

/-- A value of a row as JSON. -/
def RowValue.toJson : RowValue → Json
  | .text value => .str value
  | .blob bytes => .arr (bytes.map fun byte => .ofNat byte.toNat)

/-- Reads a value of a row. -/
def RowValue.ofJson? : Json → Option RowValue
  | .str value => some (.text value)
  | value => (itemsOfJson? byteOfJson? value).map .blob

/-- A row as JSON. -/
def Row.toJson (row : Row) : Json := .arr [.str row.key, row.value.toJson, .str row.updatedAt]

/-- Reads a row. -/
def Row.ofJson? : Json → Option Row
  | .arr [.str key, value, .str updatedAt] =>
    (RowValue.ofJson? value).map fun value => ⟨key, value, updatedAt⟩
  | _ => none

/-- A table as JSON, `null` when it is gone. -/
def tableToJson : Option Rows → Json
  | none => .null
  | some rows => .arr (rows.map Row.toJson)

/-- Reads a table. -/
def tableOfJson? : Json → Option (Option Rows)
  | .null => some none
  | value => (itemsOfJson? Row.ofJson? value).map some

/-! ## Databases -/

namespace Database

/-- A database as JSON. -/
def toJson (db : Database) : Json :=
  .arr [tableToJson db.rows, .arr (db.undeletable.map .str), .arr (db.unwritable.map .str)]

/-- Reads a database. -/
def ofJson? : Json → Option Database
  | .arr [table, undeletable, unwritable] => do
    let rows ← tableOfJson? table
    let undeletable ← itemsOfJson? Json.asString? undeletable
    let unwritable ← itemsOfJson? Json.asString? unwritable
    return ⟨rows, undeletable, unwritable⟩
  | _ => none

/-- The text of a database file. -/
def text (db : Database) : String := db.toJson.compact

/-- Reads the text of a database file; none if it is the text of something else. -/
def ofText? (text : String) : Option Database := (Json.parse? text).bind ofJson?

end Database

/-! ## What was written is what is read -/

/-- Reading items one by one gives back what was written one by one. -/
theorem itemsOfJson?_map {α : Type} {read? : Json → Option α} {write : α → Json}
    (h : ∀ a, read? (write a) = some a) (items : List α) :
    itemsOfJson? read? (.arr (items.map write)) = some items := by
  simp only [itemsOfJson?]
  induction items with
  | nil => rfl
  | cons item items ih => simp [h, ih]

theorem byteOfJson?_ofNat (byte : UInt8) : byteOfJson? (.ofNat byte.toNat) = some byte := by
  have h : byte.toNat < 256 := byte.toNat_lt
  show (if byte.toNat < 256 then some (UInt8.ofNat byte.toNat) else none) = some byte
  rw [if_pos h, UInt8.ofNat_toNat]

theorem RowValue.ofJson?_toJson (value : RowValue) : ofJson? value.toJson = some value := by
  cases value with
  | text value => rfl
  | blob bytes => simp [toJson, ofJson?, itemsOfJson?_map byteOfJson?_ofNat]

theorem Row.ofJson?_toJson (row : Row) : ofJson? row.toJson = some row := by
  simp [toJson, ofJson?, RowValue.ofJson?_toJson]

theorem tableOfJson?_toJson (table : Option Rows) :
    tableOfJson? (tableToJson table) = some table := by
  cases table with
  | none => rfl
  | some rows => simp [tableToJson, tableOfJson?, itemsOfJson?_map Row.ofJson?_toJson]

/-- A database is read as it was written. -/
theorem Database.ofJson?_toJson (db : Database) : ofJson? db.toJson = some db := by
  have h : ∀ s : String, Json.asString? (.str s) = some s := fun _ => rfl
  simp [toJson, ofJson?, tableOfJson?_toJson, itemsOfJson?_map h]

end BearerClient
