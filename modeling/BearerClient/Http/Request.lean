import BearerClient.Http.Header
import BearerClient.Json.Printer
import BearerClient.Text.Blank
import BearerClient.Url.Parser

/-!
# Building requests

A caller describes a request by a method, a path below the root of the API, headers, a JSON body and
a time budget. Built under an access token it becomes a request with a full URL, in which the
caller's headers override the two that every request has. A request that cannot be built is never
sent.
-/

namespace BearerClient

/-- What a caller asks for. -/
structure Descriptor where
  /-- The method. -/
  method : Method
  /-- The path below the root of the API, with query. -/
  path : String
  /-- The caller's headers, in order. -/
  headers : List (String × String)
  /-- The body. -/
  body : Option Json
  /-- How long each wait of the request may take. -/
  timeoutMs : Nat
  deriving Repr

/-- The time budget of a request that does not set one. -/
def defaultTimeoutMs : Nat := 20000

/-- The root of the API, without slashes at its end. -/
structure ApiRoot where
  /-- The text of the root. -/
  text : String
  deriving DecidableEq, Repr

namespace ApiRoot

/-- The root that is configured as `base`. -/
def ofBase (base : String) : ApiRoot := ⟨Text.trimEndChar '/' base⟩

/-- The text of the URL for a path: root and path with exactly one slash between them. -/
def urlText (root : ApiRoot) (path : String) : String :=
  root.text ++ "/" ++ Text.trimStartChar '/' path

/-- The URL for a path, if the joined text is one that names a host. Credentials in it that can be
read are not part of the address; the header that they would go into carries the access token. -/
def url? (root : ApiRoot) (path : String) : Option Url := do
  let url ← Url.parse? (root.urlText path)
  if url.hasHost then some url.withoutCredentials else none

end ApiRoot

/-- A request that is ready to be sent. -/
structure Request where
  /-- The method. -/
  method : Method
  /-- Where the request goes. -/
  url : Url
  /-- The headers. -/
  headers : Headers
  /-- The text of the body. -/
  body : Option String
  deriving DecidableEq, Repr

namespace Request

/-- The value of the header that carries an access token. -/
def bearer (token : String) : String := "Bearer " ++ token

/-- The headers under an access token, before the caller's. -/
def defaultHeaders (token : String) : Headers :=
  [("content-type", "application/json"), ("authorization", bearer token)]

/-- Builds the request that `d` describes under an access token. The first obstacle is described:
the token, then the headers in their order, then the URL. -/
def build (root : ApiRoot) (d : Descriptor) (token : String) : Except String Request := do
  if !isHeaderValue (bearer token) then throw "Access token is not a valid header value"
  let headers ← Headers.insertAll (defaultHeaders token) d.headers
  match root.url? d.path with
  | none => throw ("Failed to build request for " ++ d.path)
  | some url => return ⟨d.method, url, headers, d.body.map Json.compact⟩

end Request

/-- The longest URL that can be sent. -/
def maxUrlLength : Nat := 65534

/-- Whether the address can be put on the wire: the scheme is one of the web, the text is not too
long, and the host holds no character that HTTP forbids there. -/
def Url.isSendable (u : Url) : Bool :=
  u.isHttp && u.text.utf8ByteSize ≤ maxUrlLength &&
    !((u.host.map Url.Host.text).getD "").toList.any
      fun c => c = '"' || c = '\x60' || c = '\x7b' || c = '\x7d'

end BearerClient
