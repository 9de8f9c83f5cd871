import BearerClient.Url.Host

/-!
# URLs

A parsed URL, its text, and the two parts that matter to a request: the origin, which decides who is
talked to, and the target, which is what that origin is asked for.
-/

namespace BearerClient

/-- The path of a URL. -/
inductive UrlPath where
  /-- Segments, each behind a slash; without any the path is empty. -/
  | segments (parts : List String)
  /-- A text that is not divided. -/
  | plain (text : String)
  deriving DecidableEq, Repr

/-- The text of a path. -/
def UrlPath.text : UrlPath → String
  | segments parts => String.join (parts.map ("/" ++ ·))
  | plain text => text

/-- A parsed URL. Its parts are percent-encoded as they are to be written. -/
structure Url where
  /-- The scheme, in lower case. -/
  scheme : String
  /-- The user name; empty when there is none. -/
  username : String
  /-- The password; empty when there is none. -/
  password : String
  /-- The host, if the URL has an authority; it may be the empty name. -/
  host : Option Url.Host
  /-- The port, if it is not the default one of the scheme. -/
  port : Option Nat
  /-- The path. -/
  path : UrlPath
  /-- The query behind the question mark. -/
  query : Option String
  /-- The fragment behind the number sign. -/
  fragment : Option String
  deriving DecidableEq, Repr

namespace Url

/-- The port that a special scheme uses when none is given; the scheme `file` has none. -/
def defaultPort? (scheme : String) : Option Nat :=
  match scheme with
  | "http" | "ws" => some 80
  | "https" | "wss" => some 443
  | "ftp" => some 21
  | _ => none

/-- Whether URLs of the scheme have the form with an authority and a slash-separated path. -/
def isSpecial (scheme : String) : Bool :=
  scheme == "file" || (defaultPort? scheme).isSome

/-- Who a URL talks to. -/
structure Origin where
  /-- The scheme. -/
  scheme : String
  /-- The host. -/
  host : Host
  /-- The port, the default one included. -/
  port : Option Nat
  deriving DecidableEq, Repr

/-- Whether the URL names a host. -/
def hasHost (u : Url) : Bool :=
  match u.host with
  | none | some (.name "") => false
  | some _ => true

/-- The origin, if the URL has an authority. -/
def origin? (u : Url) : Option Origin :=
  u.host.map fun host => ⟨u.scheme, host, u.port <|> defaultPort? u.scheme⟩

/-- Whether the URL talks to the listener, if there is one. -/
def reaches (u : Url) (listener : Option Origin) : Bool :=
  listener.isSome && u.origin? = listener

/-- Whether requests can be sent to the URL. -/
def isHttp (u : Url) : Bool := u.scheme == "http" || u.scheme == "https"

/-- The query with its question mark. -/
def queryText (u : Url) : String :=
  match u.query with
  | some q => "?" ++ q
  | none => ""

/-- Path and query. -/
def target (u : Url) : String := u.path.text ++ u.queryText

/-- User name and password with the sign behind them. -/
def userinfoText (u : Url) : String :=
  if u.username.isEmpty && u.password.isEmpty then ""
  else u.username ++ (if u.password.isEmpty then "" else ":" ++ u.password) ++ "@"

/-- The authority with its slashes. A path that could be taken for one is kept apart by a dot. -/
def authorityText (u : Url) : String :=
  match u.host with
  | some host =>
    "//" ++ u.userinfoText ++ host.text ++
      (match u.port with
        | some port => ":" ++ toString port
        | none => "")
  | none =>
    match u.path with
    | .segments ("" :: _ :: _) => "/."
    | _ => ""

/-- The text of the URL. -/
def text (u : Url) : String :=
  u.scheme ++ ":" ++ u.authorityText ++ u.target ++
    (match u.fragment with
      | some f => "#" ++ f
      | none => "")

/-- The text that an encoded one stands for, if its bytes are UTF-8. -/
def decodedText? (encoded : String) : Option String :=
  String.fromUTF8? ⟨(percentDecode encoded.toList).toArray⟩

/-- The credentials in the URL, if they can be read: a user name that is a text, with the password
if that is one too, or a password alone. -/
def credentials? (u : Url) : Option (String × Option String) :=
  (decodedText? u.username).bind fun username =>
    let password := if u.password.isEmpty then none else decodedText? u.password
    if username.isEmpty && password.isNone then none else some (username, password)

/-- The URL without the credentials in it, if they can be read. Otherwise user name and password
stay. -/
def withoutCredentials (u : Url) : Url :=
  if u.credentials?.isSome then { u with username := "", password := "" } else u

end Url

end BearerClient
