import BearerClient.Envelope
import BearerClient.Error
import BearerClient.Http.Request
import BearerClient.Text.Base64
import BearerClient.Tokens

/-!
# Exchanges

What comes back for a request that was sent, and what it means: to the caller of a request, whose
payload is the member `data` of a successful response, and to a refresh, which takes tokens from
there.

What is modelled of the network is what the HTTP library hands over. A response is the one that the
library returns in the end: where the backend answers with a redirect, the library follows it by
itself, and neither the redirect nor the further requests are seen here.
-/

namespace BearerClient

/-- A complete response, after all redirects. -/
structure Response where
  /-- The status code. -/
  status : Nat
  /-- The bytes of the body. -/
  body : ByteArray

namespace Response

/-- Whether the request was done. -/
def isSuccess (r : Response) : Bool := 200 ≤ r.status && r.status < 300

/-- Whether the access token was refused. -/
def isUnauthorized (r : Response) : Bool := r.status = 401

end Response

/-! ## Transport -/

/-- Why an exchange has no complete response. -/
inductive TransportError where
  /-- The URL is one that cannot be requested. -/
  | unsupported (url : String)
  /-- No connection could be made. -/
  | refused (url : String)
  /-- The connection ended, or the time was up, before a response came. -/
  | broken (url : String)
  /-- The body ended too early. -/
  | cut
  deriving DecidableEq, Repr

namespace TransportError

/-- The wording of a transport failure. -/
def text : TransportError → String
  | unsupported url => "builder error for url (" ++ url ++ ")"
  | refused url | broken url => "error sending request for url (" ++ url ++ ")"
  | cut => "error decoding response body"

/-- The kind of a transport failure. -/
def kind : TransportError → String
  | unsupported _ => "unknown"
  | refused _ => "connection_failed"
  | broken _ => "request_error"
  | cut => "decode_error"

/-- The failure as the caller of a request sees it. -/
def toGatewayError (e : TransportError) : GatewayError :=
  .network (e.text ++ " (kind: " ++ e.kind ++ ")")

/-- The failure as the callers that wait for a refresh see it. -/
def toRefreshError (e : TransportError) : RefreshError := .transport e.text

end TransportError

/-- What the network gives back for a request, after all redirects. -/
inductive Delivery where
  /-- A complete response. -/
  | response (r : Response)
  /-- No connection could be made. -/
  | refused
  /-- The connection was closed without a response. -/
  | dropped
  /-- The body stopped before its declared end. -/
  | cut

/-- The complete response of an exchange with `url`, or why there is none. -/
def Delivery.response? (url : Url) : Delivery → Except TransportError Response
  | .response r => .ok r
  | .refused => .error (.refused url.text)
  | .dropped => .error (.broken url.text)
  | .cut => .error .cut

/-! ## What a response means -/

/-- What the caller of a request gets from a response that does not refuse the access token. -/
def Response.classify {α : Type} (decode : Json.Decoder α) (r : Response) : Except GatewayError α :=
  if !r.isSuccess then
    .error (.requestFailed r.status (Envelope.failureMessage r.body r.status))
  else match Envelope.parse? r.body with
    | none => .error (.invalidResponse ("response body is not JSON: " ++ Json.syntaxError))
    | some envelope =>
      (decode envelope.data).mapError fun e => .invalidResponse e.message

/-- The tokens in a response to a refresh. -/
def Response.tokens (r : Response) : Except RefreshError Tokens :=
  if !r.isSuccess then .error (.rejected r.status (Envelope.failureMessage r.body r.status))
  else match Envelope.parse? r.body with
    | none => .error (.malformed Json.syntaxError)
    | some envelope =>
      match Tokens.decode envelope.data with
      | .error e => .error (.malformed e.message)
      | .ok tokens =>
        if tokens.accessToken.isEmpty then
          .error (.malformed "response does not contain access_token")
        else .ok tokens

/-! ## The refresh exchange -/

/-- The value of the header that carries a user name and a password. -/
def Request.basic (username : String) (password : Option String) : String :=
  "Basic " ++ .ofList (Text.base64 (username ++ ":" ++ password.getD "").toUTF8.data.toList)

/-- The request that exchanges a refresh token, sent to a given address. Credentials in the address
that can be read are taken out of it and go into a header. -/
def Request.refresh (url : Url) (refreshToken : String) : Request where
  method := .post
  url := url.withoutCredentials
  headers :=
    (url.credentials?.map fun (username, password) =>
      ("authorization", basic username password)).toList ++ [("content-type", "application/json")]
  body := some (Tokens.exchangeBody refreshToken).compact

/-- The path of the refresh exchange below the root of the API. -/
def refreshPath : String := "/auth/refresh"

/-- The address of the refresh exchange, with the credentials in it, or why nothing can be sent
there. -/
def ApiRoot.refreshUrl (root : ApiRoot) : Except RefreshError Url :=
  match Url.parse? (root.urlText refreshPath) with
  | none => .error (.transport "builder error")
  | some url =>
    if url.hasHost && url.withoutCredentials.isSendable then .ok url
    else .error (TransportError.unsupported url.withoutCredentials.text).toRefreshError

/-- The tokens that an exchange with `url` gives. -/
def Delivery.tokens (url : Url) (d : Delivery) : Except RefreshError Tokens :=
  match d.response? url with
  | .error e => .error e.toRefreshError
  | .ok r => r.tokens

end BearerClient
