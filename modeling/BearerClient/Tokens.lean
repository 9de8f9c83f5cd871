import BearerClient.Session

/-!
# Issued tokens

What the backend gives in exchange for a refresh token. Only the new access token is required; a
refresh token or a tenant that is not given is kept from the session that was refreshed.
-/

namespace BearerClient

/-- The part of the user's record that a refresh reads. -/
structure TokenUser where
  /-- The tenant of the user, if it is given. -/
  tenantId : Option String
  deriving DecidableEq, Repr

/-- The tokens of a successful refresh. -/
structure Tokens where
  /-- The new access token. -/
  accessToken : String
  /-- The refresh token that replaces the one used, if it was rotated. -/
  refreshToken : Option String
  /-- For how many seconds the access token is good, if it is told. -/
  expiresIn : Option Nat
  /-- The user's record, if it is given. -/
  user : Option TokenUser
  deriving DecidableEq, Repr

/-- Reads the user's record. -/
def TokenUser.decode : Json.Decoder TokenUser :=
  Json.decodeRecord "RefreshedUser"
    (fun members => do
      return ⟨← Json.decodeOptionalMember Json.decodeString members "tenant_id"⟩)
    (fun items => do
      let tenant ←
        Json.decodeOptional Json.decodeString (← Json.requireItem "RefreshedUser" 1 items 0)
      Json.requireEnd 1 items
      return ⟨tenant⟩)

namespace Tokens

/-- Reads tokens from the members of an object. -/
def ofMembers (members : List (String × Json)) : Except Json.DecodeError Tokens := do
  let access ← Json.decodeMember Json.decodeString members "access_token"
  let expires ← Json.decodeOptionalMember Json.decodeWord members "expires_in"
  let refresh ← Json.decodeOptionalMember Json.decodeString members "refresh_token"
  let user ← Json.decodeOptionalMember TokenUser.decode members "user"
  let access ← Json.require "access_token" access
  return ⟨access, refresh, expires, user⟩

/-- Reads tokens from the items of an array, which may stop after the access token. -/
def ofItems (items : List Json) : Except Json.DecodeError Tokens := do
  let access ← Json.decodeString (← Json.requireItem "RefreshedTokens" 4 items 0)
  let refresh ← Json.decodeOptionalItem Json.decodeString items 1
  let expires ← Json.decodeOptionalItem Json.decodeWord items 2
  let user ← Json.decodeOptionalItem TokenUser.decode items 3
  Json.requireEnd 4 items
  return ⟨access, refresh, expires, user⟩

/-- Reads tokens. -/
def decode : Json.Decoder Tokens := Json.decodeRecord "RefreshedTokens" ofMembers ofItems

/-- The session that follows `s` when these tokens are issued for it. -/
def renew (tokens : Tokens) (s : Session) : Session where
  accessToken := tokens.accessToken
  refreshToken := tokens.refreshToken <|> s.refreshToken
  tenantId := (tokens.user.bind TokenUser.tenantId) <|> s.tenantId

/-- The body of the request that exchanges a refresh token. -/
def exchangeBody (refreshToken : String) : Json := .obj [("refresh_token", .str refreshToken)]

end Tokens

end BearerClient
