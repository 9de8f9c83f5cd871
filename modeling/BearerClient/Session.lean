import BearerClient.Json.Printer
import BearerClient.Json.Decode

/-!
# Sessions

A session is what a logged-in user holds: the access token that requests carry, the refresh token
that buys a new one, and the tenant. Tokens are secrets, so a displayed session shows only the first
eight characters of a longer one.
-/

namespace BearerClient

/-- The credentials and the tenant of a logged-in user. -/
structure Session where
  /-- The token that every request carries. -/
  accessToken : String
  /-- The token that is exchanged for a new access token, if the login gave one. -/
  refreshToken : Option String
  /-- The tenant of the user, if it is known. -/
  tenantId : Option String
  deriving DecidableEq, Repr

namespace Session

/-! ## Display -/

/-- How many characters of a token are shown. -/
def shownLength : Nat := 8

/-- A token as it is shown: its first characters, and dots if there are more. -/
def redact (token : String) : String :=
  let shown := String.ofList (token.toList.take shownLength)
  if shown.utf8ByteSize < token.utf8ByteSize then shown ++ "..." else shown

/-- An optional text on one line. -/
def displayOptional : Option String → String
  | none => "None"
  | some s => "Some(" ++ Text.quote s ++ ")"

/-- The session on one line, its tokens shortened. -/
def display (s : Session) : String :=
  "Session \x7b access_token: " ++ Text.quote (redact s.accessToken) ++
    ", refresh_token: " ++ displayOptional (s.refreshToken.map redact) ++
    ", tenant_id: " ++ displayOptional s.tenantId ++ " \x7d"

/-- An optional text over several lines, inside a field of a record. -/
def displayOptionalLines : Option String → String
  | none => "None"
  | some s => "Some(\n        " ++ Text.quote s ++ ",\n    )"

/-- The session with one field a line, its tokens shortened. -/
def displayLines (s : Session) : String :=
  "Session \x7b\n    access_token: " ++ Text.quote (redact s.accessToken) ++
    ",\n    refresh_token: " ++ displayOptionalLines (s.refreshToken.map redact) ++
    ",\n    tenant_id: " ++ displayOptionalLines s.tenantId ++ ",\n\x7d"

/-! ## As JSON -/

/-- The session as an object with all three fields. -/
def toJson (s : Session) : Json :=
  .obj [("access_token", .str s.accessToken), ("refresh_token", .ofString? s.refreshToken),
    ("tenant_id", .ofString? s.tenantId)]

/-- Reads a session from the members of an object. -/
def ofMembers (members : List (String × Json)) : Except Json.DecodeError Session := do
  let access ← Json.decodeMember Json.decodeString members "access_token"
  let refresh ← Json.decodeOptionalMember Json.decodeString members "refresh_token"
  let tenant ← Json.decodeOptionalMember Json.decodeString members "tenant_id"
  let access ← Json.require "access_token" access
  return ⟨access, refresh, tenant⟩

/-- Reads a session from the items of an array, which must give all three fields. -/
def ofItems (items : List Json) : Except Json.DecodeError Session := do
  let access ← Json.decodeString (← Json.requireItem "Session" 3 items 0)
  let refresh ← Json.decodeOptional Json.decodeString (← Json.requireItem "Session" 3 items 1)
  let tenant ← Json.decodeOptional Json.decodeString (← Json.requireItem "Session" 3 items 2)
  Json.requireEnd 3 items
  return ⟨access, refresh, tenant⟩

/-- Reads a session. -/
def decode : Json.Decoder Session := Json.decodeRecord "Session" ofMembers ofItems

end Session

end BearerClient
