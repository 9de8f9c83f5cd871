import BearerClient.Binary64

/-!
# JSON values

The values that bodies are made of. Integers that fit 64 bits, signed or unsigned, are exact; every
other number is a double. An object keeps its members sorted by key, one per key, so two texts that
differ only in the order of members are the same value.
-/

namespace BearerClient

/-- A JSON value. -/
inductive Json where
  /-- The value `null`. -/
  | null
  /-- A truth value. -/
  | bool (value : Bool)
  /-- An integer of 64 bits, signed or unsigned. -/
  | int (value : Int)
  /-- Any other number. -/
  | float (value : Binary64)
  /-- A text. -/
  | str (value : String)
  /-- A sequence of values. -/
  | arr (items : List Json)
  /-- Members sorted by key, each key once. -/
  | obj (members : List (String × Json))
  deriving Repr, Inhabited

namespace Json

/-- Puts a member at its place among sorted members; an earlier one of the same key is replaced. -/
def insertMember (key : String) (value : Json) : List (String × Json) → List (String × Json)
  | [] => [(key, value)]
  | (k, v) :: rest =>
    if key < k then (key, value) :: (k, v) :: rest
    else if key = k then (key, value) :: rest
    else (k, v) :: insertMember key value rest

/-- The object with the given members; of two with one key the later counts. -/
def ofMembers (members : List (String × Json)) : Json :=
  .obj (members.foldl (fun sorted (key, value) => insertMember key value sorted) [])

/-- The member `key` of an object; other values have none. -/
def member? (key : String) : Json → Option Json
  | .obj members => members.lookup key
  | _ => none

/-- The member `key`, `null` when there is none. -/
def memberOrNull (key : String) (value : Json) : Json := (value.member? key).getD .null

/-- The first item of a non-empty array. -/
def firstItem? : Json → Option Json
  | .arr (item :: _) => some item
  | _ => none

/-- The text of a string value. -/
def asString? : Json → Option String
  | .str value => some value
  | _ => none

/-- A text, or `null` when there is none. -/
def ofString? : Option String → Json
  | some value => .str value
  | none => .null

/-- A natural as a number. -/
def ofNat (n : Nat) : Json := .int n

end Json

end BearerClient
