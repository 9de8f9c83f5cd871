/-!
# Reading a command line

A command line has levels: options stand behind the command that they belong to, and a level ends
where the name of one of its subcommands stands. Options are long (`--name value`, `--name=value`)
or short (`-n value`, `-nvalue`, `-n=value`); behind `--` nothing is an option or a subcommand. An
option that is not given takes its value from the environment.

The value of an option is examined only when the next option, the next positional argument or the
end of the level comes, so a later argument that is unknown is reported first.
-/

namespace BearerClient.CommandLine

/-- Variables of the environment; a name counts where it stands first. -/
abbrev Environment := List (String × String)

/-- The value of a variable. -/
def Environment.get? (env : Environment) (name : String) : Option String := env.lookup name

/-- Why a command line gives no command. -/
inductive UsageError where
  /-- Help was asked for. -/
  | displayHelp
  /-- The version was asked for. -/
  | displayVersion
  /-- A level that needs a subcommand has no argument at all. -/
  | displayHelpOnMissing
  /-- A level that needs a subcommand has none. -/
  | missingSubcommand
  /-- There is no subcommand of that name. -/
  | invalidSubcommand
  /-- There is no option of that name, or one argument too many. -/
  | unknownArgument
  /-- A positional argument is missing. -/
  | missingArgument
  /-- An option has no value. -/
  | missingValue
  /-- A flag has a value. -/
  | unexpectedValue
  /-- An option is given twice. -/
  | repeated
  /-- A value is not of the option's type. -/
  | badValue
  deriving DecidableEq, Repr

/-- An option of a level. -/
structure OptionSpec where
  /-- The name behind two hyphens. -/
  long : String
  /-- The letter behind one hyphen. -/
  short : Option Char
  /-- The variable that the option takes its value from when it is not given. -/
  variableName : Option String
  /-- Whether the option may be given more than once. -/
  repeats : Bool
  /-- Whether the value is an unsigned 64-bit integer. -/
  isNumber : Bool

/-- What one level of the command line may hold. -/
structure Grammar where
  /-- The options. -/
  options : List OptionSpec
  /-- How many positional arguments there must be. -/
  positionals : Nat
  /-- The subcommands, of which there must be one if there are any. -/
  subcommands : List String
  /-- Whether the version can be asked for. -/
  hasVersion : Bool

/-- The name of the subcommand that shows help on the others. -/
def helpCommand : String := "help"

/-- Whether `name` starts a subcommand of the level. -/
def Grammar.isSubcommand (g : Grammar) (name : String) : Bool :=
  !g.subcommands.isEmpty && (name == helpCommand || g.subcommands.contains name)

/-- The greatest unsigned 64-bit integer. -/
def maxNumber : Nat := 0xFFFFFFFFFFFFFFFF

/-- Reads an unsigned 64-bit integer: decimal digits, perhaps behind a plus sign. -/
def number? (text : String) : Option Nat :=
  let digits := match text.toList with
    | '+' :: digits => digits
    | digits => digits
  if digits.isEmpty || !digits.all Char.isDigit then none
  else
    let n := digits.foldl (fun n c => n * 10 + (c.toNat - '0'.toNat)) 0
    if n ≤ maxNumber then some n else none

/-- What has been read of a level. -/
structure Progress where
  /-- The values of options, by long name, in the order in which they were given. -/
  values : List (String × String)
  /-- The positional arguments. -/
  positionals : List String
  /-- The latest option, if its value is still to be examined, and the value if it is read. -/
  pending : Option (OptionSpec × Option String)
  /-- Whether `--` was read. -/
  onlyPositionals : Bool

namespace Progress

/-- Nothing read yet. -/
def empty : Progress := ⟨[], [], none, false⟩

/-- The value of an option that is given at most once. -/
def value? (p : Progress) (long : String) : Option String := p.values.lookup long

/-- The values of an option. -/
def allValues (p : Progress) (long : String) : List String :=
  (p.values.filter (·.1 = long)).map (·.2)

/-- Whether the next argument is the value of an option. -/
def awaitsValue (p : Progress) : Bool :=
  match p.pending with
  | some (_, none) => true
  | _ => false

/-- Examines the value of an option and keeps it. -/
def store (spec : OptionSpec) (value : String) (p : Progress) : Except UsageError Progress :=
  if !spec.repeats && (p.value? spec.long).isSome then .error .repeated
  else if spec.isNumber && (number? value).isNone then .error .badValue
  else .ok { p with values := p.values ++ [(spec.long, value)] }

/-- Examines the value of the latest option, if that is still to be done. -/
def resolve (p : Progress) : Except UsageError Progress :=
  match p.pending with
  | none => .ok p
  | some (_, none) => .error .missingValue
  | some (spec, some value) => { p with pending := none }.store spec value

/-- Takes an option with the value that is attached to it, or waits for the value. -/
def takeOption (spec : OptionSpec) (attached : Option String) (p : Progress) :
    Except UsageError Progress := do
  let p ← p.resolve
  match attached with
  | some value => p.store spec value
  | none => return { p with pending := some (spec, none) }

/-- Takes a positional argument; `g` says what to report when it is one too many. -/
def takePositional (g : Grammar) (argument : String) (p : Progress) : Except UsageError Progress :=
  if p.positionals.length < g.positionals then do
    let p ← p.resolve
    return { p with positionals := p.positionals ++ [argument] }
  else if g.subcommands.isEmpty || (p.onlyPositionals && g.isSubcommand argument) then
    .error .unknownArgument
  else .error .invalidSubcommand

end Progress

/-- Splits at the first equals sign. -/
def splitEquals (cs : List Char) : String × Option String :=
  let name := cs.takeWhile (· ≠ '=')
  match cs.dropWhile (· ≠ '=') with
  | [] => (.ofList name, none)
  | _ :: value => (.ofList name, some (.ofList value))

/-- What a flag does once the value in front of it is examined: nothing goes on behind a flag. -/
def raise (reason : UsageError) (p : Progress) : Except UsageError Progress := do
  let _ ← p.resolve
  .error reason

/-- Takes a long option, given without its hyphens. -/
def takeLong (g : Grammar) (cs : List Char) (p : Progress) : Except UsageError Progress :=
  let (name, attached) := splitEquals cs
  match g.options.find? (·.long = name) with
  | some spec => p.takeOption spec attached
  | none =>
    let flag : Option UsageError :=
      if name = "help" then some .displayHelp
      else if name = "version" && g.hasVersion then some .displayVersion
      else none
    match flag, attached with
    | none, _ => .error .unknownArgument
    | some _, some _ => .error .unexpectedValue
    | some reason, none => raise reason p

/-- The value attached to a short option: the characters behind its letter, less an equals sign in
front of them. Without an equals sign there must be at least one. -/
def attachedValue? (behind : List Char) : Option String :=
  match behind with
  | [] => none
  | '=' :: rest => some (.ofList rest)
  | cs => some (.ofList cs)

/-- Takes a short option, given without its hyphen. -/
def takeShort (g : Grammar) (letter : Char) (behind : List Char) (p : Progress) :
    Except UsageError Progress :=
  match g.options.find? (·.short = some letter) with
  | some spec => p.takeOption spec (attachedValue? behind)
  | none =>
    if letter = 'h' then raise .displayHelp p
    else if letter = 'V' && g.hasVersion then raise .displayVersion p
    else .error .unknownArgument

/-- Takes an argument that neither is a subcommand nor stands behind `--`. -/
def takeArgument (g : Grammar) (argument : String) (p : Progress) : Except UsageError Progress :=
  match argument.toList with
  | ['-', '-'] => .ok { p with onlyPositionals := true }
  | '-' :: '-' :: cs => takeLong g cs p
  | '-' :: letter :: behind => takeShort g letter behind p
  | _ =>
    match p.pending with
    | some (spec, none) => .ok { p with pending := some (spec, some argument) }
    | _ => p.takePositional g argument

/-- Reads a level up to its end or its subcommand, which is given with what stands behind it. -/
def readLevel (g : Grammar) : List String → Progress →
    Except UsageError (Progress × Option (String × List String))
  | [], p => .ok (p, none)
  | argument :: rest, p =>
    if p.onlyPositionals then do readLevel g rest (← p.takePositional g argument)
    else if !p.awaitsValue && g.isSubcommand argument then .ok (p, some (argument, rest))
    else do readLevel g rest (← takeArgument g argument p)

/-- Takes the values of options that are not given from the environment. -/
def takeEnvironment (env : Environment) : List OptionSpec → Progress → Except UsageError Progress
  | [], p => .ok p
  | spec :: specs, p =>
    match spec.variableName.bind env.get?, p.value? spec.long with
    | some value, none => do takeEnvironment env specs (← p.store spec value)
    | _, _ => takeEnvironment env specs p

/-- Ends a level: examines the last value, adds the environment, and sees to it that nothing that
must be there is missing. -/
def finishLevel (g : Grammar) (env : Environment) (hasSubcommand : Bool) (p : Progress) :
    Except UsageError Progress := do
  let p ← p.resolve
  let p ← takeEnvironment env g.options p
  if !g.subcommands.isEmpty && !hasSubcommand then
    .error (if p.values.isEmpty then .displayHelpOnMissing else .missingSubcommand)
  else if p.positionals.length < g.positionals then .error .missingArgument
  else .ok p

end BearerClient.CommandLine
