import BearerClient.Json
import BearerClient.Binary64.Shortest
import BearerClient.Text.Quoted

/-!
# Decoding JSON into typed values

A record is read from an object by the names of its fields, in the order of the keys, or from an
array by their positions. The first field that does not fit is reported with what was found and what
was expected; a field that is missing altogether is reported only when all that are present fit.
-/

namespace BearerClient.Json

/-- What a decoder wanted to see. -/
inductive Expected where
  /-- A text. -/
  | string
  /-- An unsigned 64-bit integer. -/
  | word
  /-- A record of the given name. -/
  | record (name : String)
  deriving DecidableEq, Repr

/-- The words for what was wanted. -/
def Expected.text : Expected → String
  | .string => "a string"
  | .word => "u64"
  | .record name => "struct " ++ name

/-- Why a value could not be decoded. -/
inductive DecodeError where
  /-- A value of another kind stood there. -/
  | kind (found : Json) (expected : Expected)
  /-- The kind was right but the value is out of range. -/
  | range (found : Json) (expected : Expected)
  /-- A field that is required is not there. -/
  | missing (field : String)
  /-- An array ended before the field at position `length` of a record. -/
  | short (length : Nat) (record : String) (fields : Nat)
  /-- An array goes on behind the last field of a record. -/
  | long (length : Nat)
  deriving Repr

/-- How a found value is described: scalars by their text, the others by their kind. -/
def found : Json → String
  | .null => "null"
  | .bool b => "boolean `" ++ toString b ++ "`"
  | .int i => "integer `" ++ toString i ++ "`"
  | .float x => "floating point `" ++ x.text ++ "`"
  | .str s => "string " ++ Text.quote s
  | .arr _ => "sequence"
  | .obj _ => "map"

/-- The wording of a decoding error. -/
def DecodeError.message : DecodeError → String
  | .kind value expected => "invalid type: " ++ value.found ++ ", expected " ++ expected.text
  | .range value expected => "invalid value: " ++ value.found ++ ", expected " ++ expected.text
  | .missing field => "missing field `" ++ field ++ "`"
  | .short length record fields =>
    "invalid length " ++ toString length ++ ", expected struct " ++ record ++ " with " ++
      toString fields ++ (if fields = 1 then " element" else " elements")
  | .long length =>
    "invalid length " ++ toString length ++ ", expected fewer elements in array"

/-- A way to read values of a type. -/
abbrev Decoder (α : Type) := Json → Except DecodeError α

/-- Reads a text. -/
def decodeString : Decoder String
  | .str s => .ok s
  | value => .error (.kind value .string)

/-- Reads an unsigned 64-bit integer. -/
def decodeWord : Decoder Nat
  | .int (.ofNat n) => .ok n
  | .int (.negSucc n) => .error (.range (.int (.negSucc n)) .word)
  | value => .error (.kind value .word)

/-- Reads a value that may be `null`. -/
def decodeOptional {α : Type} (decode : Decoder α) : Decoder (Option α)
  | .null => .ok none
  | value => (decode value).map some

/-- Reads a member if it is there. -/
def decodeMember {α : Type} (decode : Decoder α) (members : List (String × Json)) (key : String) :
    Except DecodeError (Option α) :=
  match members.lookup key with
  | none => .ok none
  | some value => (decode value).map some

/-- Reads a member that may be `null` or not there. -/
def decodeOptionalMember {α : Type} (decode : Decoder α) (members : List (String × Json))
    (key : String) : Except DecodeError (Option α) :=
  (decodeMember (decodeOptional decode) members key).map Option.join

/-- A field that must have been there. -/
def require {α : Type} (field : String) : Option α → Except DecodeError α
  | some value => .ok value
  | none => .error (.missing field)

/-- The item at a position that a record of so many fields needs. -/
def requireItem (record : String) (fields : Nat) (items : List Json) (position : Nat) :
    Except DecodeError Json :=
  match items[position]? with
  | some item => .ok item
  | none => .error (.short position record fields)

/-- Reads the item at a position; the field is absent when the array is shorter. -/
def decodeOptionalItem {α : Type} (decode : Decoder α) (items : List Json) (position : Nat) :
    Except DecodeError (Option α) :=
  match items[position]? with
  | none => .ok none
  | some item => decodeOptional decode item

/-- An array may not go on behind the last field. -/
def requireEnd (fields : Nat) (items : List Json) : Except DecodeError Unit :=
  if items.length ≤ fields then .ok () else .error (.long items.length)

/-- Reads a record from an object or an array. -/
def decodeRecord {α : Type} (name : String)
    (ofMembers : List (String × Json) → Except DecodeError α)
    (ofItems : List Json → Except DecodeError α) : Decoder α
  | .obj members => ofMembers members
  | .arr items => ofItems items
  | value => .error (.kind value (.record name))

end BearerClient.Json
