import BearerClient.CommandLine.Level
import BearerClient.Error
import BearerClient.Settings

/-!
# What a run prints

A run ends with an exit code and what it has printed on its two streams. What goes wrong is told on
the error stream, and the exit code is 1; a command line that is not understood gives 2.
-/

namespace BearerClient.Program

open CommandLine (UsageError)

/-- What a run leaves behind on its streams. -/
structure Output where
  /-- The exit code. -/
  code : Nat
  /-- What was printed. -/
  out : String
  /-- What was printed on the error stream. -/
  err : String
  deriving DecidableEq, Repr

/-- Why a run fails. -/
structure Failure where
  /-- What failed. -/
  message : String
  /-- What made it fail, if that is something else. -/
  cause : Option String
  deriving DecidableEq, Repr

/-- A failure that is its own cause. -/
def Failure.plain (message : String) : Failure := ⟨message, none⟩

/-- What is told about a failure. -/
def Failure.report (f : Failure) : String :=
  "Error: " ++ f.message ++
    (match f.cause with
      | some cause => "\n\nCaused by:\n    " ++ cause ++ "\n"
      | none => "\n")

/-- A failure of a request; behind an internal error stands the failure of the store or the request.
-/
def Failure.ofGatewayError (e : GatewayError) : Failure :=
  match e with
  | .internal message => ⟨e.message, some message⟩
  | e => .plain e.message

/-- The output of a run that succeeds. -/
def succeed (out : String) : Output := ⟨0, out, ""⟩

/-- The output of a run that fails. -/
def fail (f : Failure) : Output := ⟨1, "", f.report⟩

/-- What is printed when the command line itself is the problem, or asks for the program. -/
def usageOutput : UsageError → Output
  | .displayHelp => succeed ("Usage: " ++ programName ++ " [OPTIONS] <COMMAND>\n")
  | .displayVersion => succeed (programName ++ " " ++ programVersion ++ "\n")
  | _ => ⟨2, "", "Usage: " ++ programName ++ " [OPTIONS] <COMMAND>\n"⟩

end BearerClient.Program
