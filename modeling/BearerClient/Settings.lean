import BearerClient.CommandLine
import BearerClient.Session
import BearerClient.Text.Blank

/-!
# Settings

What a run of the program is configured with. The command line comes first, then the environment,
then the defaults. The session is kept in the user's data directory unless another file is named.
-/

namespace BearerClient

open CommandLine (Environment Invocation)

/-- The name of the program. -/
def programName : String := "tenant-gateway"

/-- The version of the program. -/
def programVersion : String := "0.1.0"

/-- The configuration of a run. -/
structure Settings where
  /-- The root of the API, without slashes at its end. -/
  apiBaseUrl : String
  /-- The file that keeps the session. -/
  sessionDbFile : String
  /-- The time budget of requests. -/
  requestTimeoutMs : Nat
  /-- The time limit of refreshes. -/
  refreshTimeoutMs : Nat
  /-- How many idle connections are kept. -/
  httpMaxConnections : Nat
  /-- How many seconds a connection may take to be made. -/
  httpConnectTimeout : Nat
  /-- How much is logged. -/
  logLevel : String
  deriving DecidableEq, Repr

namespace Settings

/-! ## Files -/

/-- A path below a directory; a path that starts at the root stands for itself. -/
def joinPath (directory path : String) : String :=
  if path.startsWith "/" then path
  else if directory.isEmpty || directory.endsWith "/" then directory ++ path
  else directory ++ "/" ++ path

/-- The home directory when the environment does not name one. -/
def fallbackHome : String := "/root"

/-- The home directory of the user. -/
def home (env : Environment) : String :=
  match env.get? "HOME" with
  | some path => if path.isEmpty then fallbackHome else path
  | none => fallbackHome

/-- Replaces a tilde and slash at the start of a path by the home directory. -/
def expandTilde (env : Environment) (path : String) : String :=
  match path.toList with
  | '~' :: '/' :: rest => joinPath (home env) (.ofList rest)
  | _ => path

/-- The directory for the data of the user's programs. -/
def dataDirectory (env : Environment) : String :=
  match env.get? "XDG_DATA_HOME" with
  | some path => if path.startsWith "/" then path else joinPath (home env) ".local/share"
  | none => joinPath (home env) ".local/share"

/-- The file that keeps the session when none is named. -/
def defaultSessionDb (env : Environment) : String :=
  joinPath (joinPath (dataDirectory env) programName) "session.sqlite3"

/-! ## Building and checking -/

/-- The variables of the environment that a run looks at. -/
def variableNames : List String :=
  (CommandLine.topLevel.options ++ CommandLine.importLevel.options).filterMap (·.variableName) ++
    ["HTTP_MAX_CONNECTIONS", "HTTP_CONNECT_TIMEOUT", "HOME", "XDG_DATA_HOME"]

/-- A number in the environment; one that cannot be read does not count. -/
def numberFrom (env : Environment) (name : String) (default : Nat) : Nat :=
  ((env.get? name).bind CommandLine.number?).getD default

/-- The configuration of an invocation. -/
def ofInvocation (env : Environment) (i : Invocation) : Settings where
  apiBaseUrl := Text.trimEndChar '/' i.baseUrl
  sessionDbFile := match i.sessionDb with
    | some path => expandTilde env path
    | none => defaultSessionDb env
  requestTimeoutMs := i.requestTimeoutMs
  refreshTimeoutMs := i.refreshTimeoutMs
  httpMaxConnections := numberFrom env "HTTP_MAX_CONNECTIONS" 20
  httpConnectTimeout := numberFrom env "HTTP_CONNECT_TIMEOUT" 10
  logLevel := i.logLevel

/-- Why the program cannot run with these settings, if it cannot. -/
def problem? (s : Settings) : Option String :=
  if !(s.apiBaseUrl.startsWith "http://" || s.apiBaseUrl.startsWith "https://") then
    some ("API_BASE_URL must start with http:// or https://: " ++ s.apiBaseUrl)
  else if s.requestTimeoutMs = 0 then some "REQUEST_TIMEOUT_MS must be greater than zero"
  else if s.refreshTimeoutMs = 0 then some "REFRESH_TIMEOUT_MS must be greater than zero"
  else none

end Settings

/-! ## What the user types -/

/-- Reads a header typed as a name, a colon and a value; blanks around both do not count. -/
def parseHeader (raw : String) : Except String (String × String) :=
  let cs := raw.toList
  match cs.dropWhile (· ≠ ':') with
  | [] => .error ("Header must look like \"Name: value\": " ++ raw)
  | _ :: value =>
    let name := Text.trim (.ofList (cs.takeWhile (· ≠ ':')))
    if name.isEmpty then .error ("Header name is empty: " ++ raw)
    else .ok (name, Text.trim (.ofList value))

/-- What is told about an access token that is blank. -/
def blankAccessToken : String := "Access token cannot be empty"

/-- The session with the fields that a user gives, without the blanks around them. A blank refresh
token or tenant is absent; a blank access token is none. -/
def Session.ofFields (accessToken refreshToken tenantId : String) : Except String Session :=
  if Text.isBlankText accessToken then .error blankAccessToken
  else .ok ⟨Text.trim accessToken, Text.trim? refreshToken, Text.trim? tenantId⟩

end BearerClient
