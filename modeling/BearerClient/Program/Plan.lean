import BearerClient.CommandLine
import BearerClient.Http.Request
import BearerClient.Json.Parser
import BearerClient.Program.Output

/-!
# What a run is going to do

A command line is read and checked before anything else happens, and a request or a session is
described completely before anything is sent or stored.
-/

namespace BearerClient.Program

open CommandLine (Command Environment)

/-- What a command line asks for, once it is found to be in order. -/
def plan (env : Environment) (arguments : List String) : Except Output (Settings × Command) :=
  match CommandLine.parse env arguments with
  | .error e => .error (usageOutput e)
  | .ok invocation =>
    let settings := Settings.ofInvocation env invocation
    match settings.problem? with
    | some problem => .error (fail (.plain problem))
    | none => .ok (settings, invocation.command)

/-- The file that keeps the session in a run with a command line that is in order. -/
def sessionFile? (env : Environment) (arguments : List String) : Option String :=
  match plan env arguments with
  | .error _ => none
  | .ok (settings, _) => some settings.sessionDbFile

/-- The request that a command line asks for: the method is checked first, then the body, then the
headers. -/
def describe (method path : String) (data : Option String) (headers : List String)
    (timeoutMs : Nat) : Except Failure Descriptor := do
  let verb ← match Method.ofTyped? method with
    | some verb => pure verb
    | none => throw ⟨"Invalid HTTP method: " ++ method, some "invalid HTTP method"⟩
  let body ← match data with
    | none => pure none
    | some text =>
      match Json.parse? text with
      | some value => pure (some value)
      | none => throw ⟨"Request body must be valid JSON", some Json.syntaxError⟩
  let headers ← headers.mapM fun raw => (parseHeader raw).mapError .plain
  return ⟨verb, path, headers, body, timeoutMs⟩

/-- Why a prompt fails when there is nobody at a terminal. -/
def noTerminal : String := "IO error: not a terminal"

/-- The session that an import asks for. Each field that is not given would be prompted for, which
fails without a terminal. -/
def importedSession (accessToken refreshToken tenantId : Option String) :
    Except Failure Session := do
  let prompt (field : Option String) (name : String) : Except Failure String :=
    match field with
    | some value => .ok value
    | none => .error ⟨"Failed to read " ++ name, some noTerminal⟩
  let access ← prompt accessToken "access token"
  if Text.isBlankText access then throw (.plain blankAccessToken)
  let refresh ← prompt refreshToken "refresh token"
  let tenant ← prompt tenantId "tenant id"
  (Session.ofFields access refresh tenant).mapError .plain

end BearerClient.Program
