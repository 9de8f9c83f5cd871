import BearerClient.CommandLine.Level

/-!
# The commands

The program sends one request, or shows, replaces or removes the stored session. What concerns the
connection stands in front of the command and can also come from the environment.
-/

namespace BearerClient.CommandLine

/-- What the user wants done. -/
inductive Command where
  /-- Send a request and print its payload. -/
  | request (method path : String) (data : Option String) (headers : List String)
    (timeoutMs : Option Nat)
  /-- Show the stored session. -/
  | showSession
  /-- Store the tokens of a login. -/
  | importSession (accessToken refreshToken tenantId : Option String)
  /-- Log out. -/
  | clearSession
  deriving DecidableEq, Repr

/-- A command line that was understood. -/
structure Invocation where
  /-- The root of the API. -/
  baseUrl : String
  /-- The file that keeps the session. -/
  sessionDb : Option String
  /-- The time budget of requests. -/
  requestTimeoutMs : Nat
  /-- The time limit of refreshes. -/
  refreshTimeoutMs : Nat
  /-- How much is logged. -/
  logLevel : String
  /-- What is to be done. -/
  command : Command
  deriving DecidableEq, Repr

/-- An option that takes a text, once. -/
def textOption (long : String) (short : Option Char) (variableName : Option String) : OptionSpec :=
  ⟨long, short, variableName, false, false⟩

/-- An option that takes a number, once. -/
def numberOption (long : String) (variableName : Option String) : OptionSpec :=
  ⟨long, none, variableName, false, true⟩

/-- The first level. -/
def topLevel : Grammar where
  options := [
    textOption "base-url" (some 'u') (some "API_BASE_URL"),
    textOption "session-db" (some 's') (some "SESSION_DB_FILE"),
    numberOption "request-timeout-ms" (some "REQUEST_TIMEOUT_MS"),
    numberOption "refresh-timeout-ms" (some "REFRESH_TIMEOUT_MS"),
    textOption "log-level" none (some "LOG_LEVEL")]
  positionals := 0
  subcommands := ["request", "session"]
  hasVersion := true

/-- The level behind `request`: a method and a path. -/
def requestLevel : Grammar where
  options := [
    textOption "data" (some 'd') none,
    { textOption "header" (some 'H') none with repeats := true },
    numberOption "timeout-ms" none]
  positionals := 2
  subcommands := []
  hasVersion := false

/-- The level behind `session`. -/
def sessionLevel : Grammar where
  options := []
  positionals := 0
  subcommands := ["show", "import", "clear"]
  hasVersion := false

/-- The level behind `session import`. -/
def importLevel : Grammar where
  options := [
    textOption "access-token" none (some "ACCESS_TOKEN"),
    textOption "refresh-token" none (some "REFRESH_TOKEN"),
    textOption "tenant-id" none none]
  positionals := 0
  subcommands := []
  hasVersion := false

/-- A level that holds nothing. -/
def emptyLevel : Grammar := ⟨[], 0, [], false⟩

/-- Reads a level that has no subcommands. -/
def readLeaf (g : Grammar) (env : Environment) (arguments : List String) :
    Except UsageError Progress := do
  let (p, _) ← readLevel g arguments .empty
  finishLevel g env false p

/-- Answers the subcommand that shows help: every name behind it must be a subcommand of the one in
front. -/
def helpOn (known : List String) : List String → UsageError
  | [] => .displayHelp
  | name :: rest =>
    if name = helpCommand && !known.isEmpty then
      (if rest.isEmpty then .displayHelp else .invalidSubcommand)
    else if known.contains name then
      helpOn (if name = "session" then sessionLevel.subcommands else []) rest
    else .invalidSubcommand

/-- Reads what stands behind `request`. -/
def readRequest (env : Environment) (arguments : List String) : Except UsageError Command := do
  let p ← readLeaf requestLevel env arguments
  match p.positionals with
  | [method, path] =>
    return .request method path (p.value? "data") (p.allValues "header")
      ((p.value? "timeout-ms").bind number?)
  | _ => .error .missingArgument

/-- Reads what stands behind `session`. -/
def readSession (env : Environment) (arguments : List String) : Except UsageError Command := do
  let (p, subcommand) ← readLevel sessionLevel arguments .empty
  match subcommand with
  | none =>
    let _ ← finishLevel sessionLevel env false p
    .error .missingSubcommand
  | some (name, rest) =>
    if name = helpCommand then .error (helpOn sessionLevel.subcommands rest)
    else
      let command ←
        if name = "import" then do
          let q ← readLeaf importLevel env rest
          pure (.importSession (q.value? "access-token") (q.value? "refresh-token")
            (q.value? "tenant-id"))
        else do
          let _ ← readLeaf emptyLevel env rest
          pure (if name = "show" then .showSession else .clearSession)
      let _ ← finishLevel sessionLevel env true p
      return command

/-- The root of the API when none is configured. -/
def defaultBaseUrl : String := "http://localhost:8000/api/v1"

/-- The time limits when none are configured. -/
def defaultTimeoutMs : Nat := 20000

/-- How much is logged when that is not configured. -/
def defaultLogLevel : String := "info"

/-- Reads a command line. Everything behind the subcommand is examined before the last value in
front of it. -/
def parse (env : Environment) (arguments : List String) : Except UsageError Invocation := do
  let (p, subcommand) ← readLevel topLevel arguments .empty
  match subcommand with
  | none =>
    let _ ← finishLevel topLevel env false p
    .error .missingSubcommand
  | some (name, rest) =>
    if name = helpCommand then .error (helpOn topLevel.subcommands rest)
    else
      let command ← if name = "request" then readRequest env rest else readSession env rest
      let p ← finishLevel topLevel env true p
      let number (long : String) : Nat :=
        ((p.value? long).bind number?).getD defaultTimeoutMs
      return {
        baseUrl := (p.value? "base-url").getD defaultBaseUrl
        sessionDb := p.value? "session-db"
        requestTimeoutMs := number "request-timeout-ms"
        refreshTimeoutMs := number "refresh-timeout-ms"
        logLevel := (p.value? "log-level").getD defaultLogLevel
        command := command }

end BearerClient.CommandLine
