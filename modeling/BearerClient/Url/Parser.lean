import BearerClient.Url

/-!
# Reading URLs

A URL is read as browsers read it: blanks and controls around it do not count, tabs and line breaks
inside it are dropped, a backslash separates as a slash does where the scheme is special, and dot
segments are resolved. Only absolute URLs are read.
-/

namespace BearerClient.Url

/-- The characters that count: no blanks or controls at the ends, no tabs or line breaks at all. -/
def significantChars (text : String) : List Char :=
  let isEdge (c : Char) : Bool := c.toNat ≤ 0x20
  let trimmed := ((text.toList.dropWhile isEdge).reverse.dropWhile isEdge).reverse
  trimmed.filter fun c => !(c = '\t' || c = '\n' || c = '\r')

/-- Splits off the scheme, a letter followed by letters, digits, and `+`, `-`, `.`, up to a colon.
-/
def scheme? (cs : List Char) : Option (String × List Char) :=
  let isSchemeChar (c : Char) : Bool := c.isAlphanum || c = '+' || c = '-' || c = '.'
  let name := cs.takeWhile isSchemeChar
  match name, cs.dropWhile isSchemeChar with
  | first :: _, ':' :: rest =>
    if first.isAlpha then some (.ofList (name.map Char.toLower), rest) else none
  | _, _ => none

/-- Whether `c` ends an authority, and separates path segments, other than by starting a query. -/
def isSlash (special : Bool) (c : Char) : Bool := c = '/' || (special && c = '\\')

/-- Whether `c` starts the query or the fragment. -/
def endsPath (c : Char) : Bool := c = '?' || c = '#'

/-! ## Paths -/

/-- Whether a segment stands for the segment above. -/
def isDoubleDot (segment : List Char) : Bool :=
  let lower := segment.map Char.toLower
  lower == ['.', '.'] || lower == ['.', '%', '2', 'e'] || lower == ['%', '2', 'e', '.'] ||
    lower == ['%', '2', 'e', '%', '2', 'e']

/-- Whether a segment stands for its own place. -/
def isSingleDot (segment : List Char) : Bool :=
  let lower := segment.map Char.toLower
  lower == ['.'] || lower == ['%', '2', 'e']

/-- Whether a segment names a drive: a letter, and a colon or a bar. -/
def isDrive (segment : List Char) : Bool :=
  match segment with
  | [letter, mark] => letter.isAlpha && (mark = ':' || mark = '|')
  | _ => false

/-- Whether a segment names a drive, perhaps with more behind a backslash. -/
def startsWithDrive (segment : List Char) : Bool :=
  isDrive (segment.take 2) && (segment.drop 2).head?.all (· = '\\')

/-- The segments above the last one. A drive is never left. -/
def parentSegments (above : List String) : List String :=
  match above with
  | last :: rest => if startsWithDrive last.toList then above else rest
  | [] => []

/-- Resolves dot segments. `above` holds the segments kept so far, the last one first. A dot segment
at the end leaves an empty segment, so that the path still ends in a slash. -/
def resolveSegments : List (List Char) → List String → List String
  | [], above => above.reverse
  | segment :: rest, above =>
    let leave (kept : List String) := if rest.isEmpty then "" :: kept else kept
    if isDoubleDot segment then resolveSegments rest (leave (parentSegments above))
    else if isSingleDot segment then resolveSegments rest (leave above)
    else resolveSegments rest (.ofList (percentEncode inPathSet segment) :: above)

/-- The path written as `cs`, which is empty or starts with a slash. The empty path of a special URL
is a single slash. -/
def pathOf (scheme : String) (cs : List Char) : UrlPath :=
  match cs with
  | [] => .segments (if isSpecial scheme then [""] else [])
  | _ :: rest =>
    .segments (resolveSegments (Text.splitWhere (isSlash (isSpecial scheme)) rest) [])

/-! ## Authorities -/

/-- User name, password, host and port. -/
structure Authority where
  /-- The encoded user name. -/
  username : String
  /-- The encoded password. -/
  password : String
  /-- The host. -/
  host : Host
  /-- The port, unless it is the default one. -/
  port : Option Nat

/-- Splits at the last `@`; without one there is no user information. -/
def splitUserinfo (cs : List Char) : Option (List Char) × List Char :=
  let after := (cs.reverse.takeWhile (· ≠ '@')).reverse
  if cs.contains '@' then (some (cs.take (cs.length - after.length - 1)), after) else (none, cs)

/-- The length of the host at the start of an authority: up to a colon outside brackets. -/
def hostLength (inBrackets : Bool) : List Char → Nat
  | [] => 0
  | c :: rest =>
    if c = ':' && !inBrackets then 0
    else hostLength (if c = '[' then true else if c = ']' then false else inBrackets) rest + 1

/-- Reads a port. None is given by nothing and by the default one. -/
def port? (scheme : String) (digits : List Char) : Option (Option Nat) :=
  if digits.isEmpty then some none
  else if digits.all Char.isDigit then
    let n := digits.foldl (fun n c => n * 10 + (c.toNat - '0'.toNat)) 0
    if 65535 < n then none else some (if defaultPort? scheme = some n then none else some n)
  else none

/-- Reads an authority, in front of a given text. A special URL needs a host, and so does one with a
user, a password or a port, or with only the sign behind these. -/
def authority? (scheme : String) (cs after : List Char) : Option Authority := do
  let (userinfo, rest) := splitUserinfo cs
  let length := hostLength false rest
  let hostChars := rest.take length
  let portChars := rest.drop length
  let user := userinfo.getD []
  let encode (cs : List Char) : String := .ofList (percentEncode inUserinfoSet cs)
  let username := encode (user.takeWhile (· ≠ ':'))
  let password := encode ((user.dropWhile (· ≠ ':')).drop 1)
  let needsHost := isSpecial scheme || !username.isEmpty || !password.isEmpty ||
    !portChars.isEmpty || (userinfo = some [] && !after.isEmpty)
  if hostChars.isEmpty && needsHost then none
  else
    let host ← if isSpecial scheme then Host.ofSpecial? hostChars else Host.ofOther? hostChars
    let port ← port? scheme (portChars.drop 1)
    some ⟨username, password, host, port⟩

/-! ## URLs -/

/-- The query and the fragment in what follows the path. -/
def queryAndFragment (scheme : String) (cs : List Char) : Option String × Option String :=
  let fragmentOf : List Char → Option String
    | '#' :: rest => some (.ofList (percentEncode inFragmentSet rest))
    | _ => none
  match cs with
  | '?' :: rest =>
    let set := if isSpecial scheme then inSpecialQuerySet else inQuerySet
    (some (.ofList (percentEncode set (rest.takeWhile (· ≠ '#')))),
      fragmentOf (rest.dropWhile (· ≠ '#')))
  | cs => (none, fragmentOf cs)

/-- The URL whose path, query and fragment are written as `cs`. -/
def finish (scheme : String) (authority : Option Authority) (path : UrlPath)
    (cs : List Char) : Url :=
  let (query, fragment) := queryAndFragment scheme cs
  { scheme := scheme
    username := (authority.map (·.username)).getD ""
    password := (authority.map (·.password)).getD ""
    host := authority.map (·.host)
    port := authority.bind (·.port)
    path := path
    query := query
    fragment := fragment }

/-- The characters of an authority, and what follows them. A backslash ends the authority of a
special URL, and of any other one behind the colon in front of a port. -/
def splitAuthority (scheme : String) (cs : List Char) : List Char × List Char :=
  let inAuthority (c : Char) : Bool := !(isSlash (isSpecial scheme) c || endsPath c)
  let authority := cs.takeWhile inAuthority
  let (_, address) := splitUserinfo authority
  let port := address.drop (hostLength false address)
  let rest := port.dropWhile (· ≠ '\\')
  (authority.take (authority.length - rest.length), rest ++ cs.dropWhile inAuthority)

/-- Reads what follows the two slashes in front of an authority. -/
def afterSlashes? (scheme : String) (cs : List Char) : Option Url := do
  let (authorityChars, rest) := splitAuthority scheme cs
  let authority ← authority? scheme authorityChars rest
  let pathChars := rest.takeWhile (!endsPath ·)
  let path :=
    if pathChars.head?.any (!isSlash (isSpecial scheme) ·) then '/' :: pathChars else pathChars
  some (finish scheme (some authority) (pathOf scheme path) (rest.dropWhile (!endsPath ·)))

/-! ## File URLs -/

/-- A path on a host, with its segments still as they are written. A drive at the start is written
with a colon and belongs to this machine, whatever the host. -/
def claimDrive (host : Host) : List String → Host × List String
  | [] => (host, [])
  | first :: rest =>
    if isDrive first.toList then (.name "", .ofList (first.toList.take 1 ++ [':']) :: rest)
    else (host, first :: rest)

/-- The URL of a file on a host, whose path without the slash in front, query and fragment are
written as `cs`. Empty segments at the start of the path do not count. -/
def fileOn (host : Host) (cs : List Char) : Url :=
  let segments := Text.splitWhere (isSlash true) (cs.takeWhile (!endsPath ·))
  let (host, resolved) := claimDrive host (resolveSegments segments [])
  let counted := resolved.dropWhile (·.isEmpty)
  finish "file" (some ⟨"", "", host, none⟩) (.segments (if counted.isEmpty then [""] else counted))
    (cs.dropWhile (!endsPath ·))

/-- Reads what follows the two slashes of a file URL. Its host is empty unless another machine than
this one is named; a drive is part of the path. -/
def fileAfterSlashes? (cs : List Char) : Option Url :=
  let inHost (c : Char) : Bool := !(isSlash true c || endsPath c)
  let hostChars := cs.takeWhile inHost
  let rest := cs.dropWhile inHost
  if hostChars.isEmpty || isDrive hostChars then some (fileOn (.name "") cs)
  else (Host.ofSpecial? hostChars).map fun host =>
    if host = .name "localhost" then fileOn (.name "") rest
    else fileOn host (if rest.head?.any (isSlash true) then rest.drop 1 else rest)

/-- Reads a file URL behind its scheme. -/
def fileUrl? (cs : List Char) : Option Url :=
  match cs.takeWhile (isSlash true) with
  | _ :: _ :: _ => fileAfterSlashes? (cs.drop 2)
  | [_] => some (fileOn (.name "") (cs.drop 1))
  | [] => some (fileOn (.name "") cs)

/-! ## All URLs -/

/-- Reads a URL behind its scheme. -/
def afterScheme? (scheme : String) (cs : List Char) : Option Url :=
  if scheme == "file" then fileUrl? cs
  else if isSpecial scheme then afterSlashes? scheme (cs.dropWhile (isSlash true))
  else match cs with
    | '/' :: '/' :: rest => afterSlashes? scheme rest
    | '/' :: _ =>
      some (finish scheme none (pathOf scheme (cs.takeWhile (!endsPath ·)))
        (cs.dropWhile (!endsPath ·)))
    | _ =>
      some (finish scheme none
        (.plain (.ofList (percentEncode isOutsidePrintable (cs.takeWhile (!endsPath ·)))))
        (cs.dropWhile (!endsPath ·)))

/-- Reads an absolute URL. -/
def parse? (text : String) : Option Url := do
  let (scheme, rest) ← scheme? (significantChars text)
  afterScheme? scheme rest

end BearerClient.Url
