import BearerClient.Json.Parser

/-!
# Response envelopes

Every response of the backend is wrapped as `data`, `meta` and `error`; a failed validation may
carry a list `errors` instead. The members are taken independently of each other, so an unexpected
shape in one does not hide the others.
-/

namespace BearerClient

/-- The members of a response body; absent ones are `null`. -/
structure Envelope where
  /-- The payload. -/
  data : Json
  /-- Information about the response, which is not interpreted. -/
  metadata : Json
  /-- What went wrong. -/
  error : Json
  /-- What went wrong, one entry for each fault. -/
  errors : Json
  deriving Repr, Inhabited

namespace Envelope

/-- The envelope without members. -/
def empty : Envelope := ⟨.null, .null, .null, .null⟩

/-- Takes the members out of a body. -/
def ofJson (body : Json) : Envelope :=
  ⟨body.memberOrNull "data", body.memberOrNull "meta", body.memberOrNull "error",
    body.memberOrNull "errors"⟩

/-- Reads a body. An empty one gives the empty envelope; one that is not JSON gives none. -/
def parse? (body : ByteArray) : Option Envelope :=
  if body.isEmpty then some empty else (Json.parseBytes? body).map ofJson

/-- The message of an error: the error itself if it is a text, else its member `message`. An empty
message is none. -/
def messageOf? (error : Json) : Option String :=
  let text := match error with
    | .str s => some s
    | error => (error.member? "message").bind Json.asString?
  text.filter (!·.isEmpty)

/-- What to tell the user about a failed response: the message of `error`, else of the first of
`errors`, else the status alone. -/
def errorMessage (e : Envelope) (status : Nat) : String :=
  match messageOf? e.error <|> e.errors.firstItem?.bind messageOf? with
  | some message => message
  | none => "Request failed (" ++ toString status ++ ")"

/-- What to tell the user about a failed response with this body. -/
def failureMessage (body : ByteArray) (status : Nat) : String :=
  ((parse? body).getD empty).errorMessage status

end Envelope

end BearerClient
