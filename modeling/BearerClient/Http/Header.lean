import BearerClient.Http.Method

/-!
# Headers

Header names are compared without case and kept in lower case; each name has one value, the one that
was given last. Values may hold any character but controls; a tab is allowed.
-/

namespace BearerClient

/-- The greatest length of a header name. -/
def maxHeaderNameLength : Nat := 65535

/-- The lower-case form of a header name, if the text is one. -/
def headerName? (name : String) : Option String :=
  if isToken name && name.utf8ByteSize ≤ maxHeaderNameLength then
    some (.ofList (name.toList.map Char.toLower))
  else none

/-- Whether `c` may stand in the value of a header. -/
def isHeaderValueChar (c : Char) : Bool := c = '\t' || (0x20 ≤ c.toNat && c.toNat ≠ 0x7F)

/-- Whether the text may be the value of a header. -/
def isHeaderValue (value : String) : Bool := value.toList.all isHeaderValueChar

/-- Header values by lower-case name, each name once. -/
abbrev Headers := List (String × String)

namespace Headers

/-- Gives the header `name` a value in place of the one it has. -/
def insert (name value : String) : Headers → Headers
  | [] => [(name, value)]
  | (n, v) :: rest => if n = name then (name, value) :: rest else (n, v) :: insert name value rest

/-- The value of the header `name`. -/
def get? (headers : Headers) (name : String) : Option String := headers.lookup name

/-- Adds the headers of a caller, in their order. The first bad one is described. The HTTP
library breaks down over more names than its table can hold; that limit is left out. -/
def insertAll (headers : Headers) : List (String × String) → Except String Headers
  | [] => .ok headers
  | (name, value) :: rest =>
    match headerName? name with
    | none => .error ("Invalid header name: " ++ name)
    | some name =>
      if isHeaderValue value then insertAll (headers.insert name value) rest
      else .error ("Invalid value for header " ++ name)

end Headers

end BearerClient
