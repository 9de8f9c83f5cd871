import BearerClient.CommandLine.Level
import BearerClient.Text.Alphanumeric
import BearerClient.Text.Blank

/-!
# Environment files

A file of lines `NAME=value` adds to the environment what is not set there yet. A quoted value may
run over several lines; a number sign behind a blank starts a comment; `$NAME` in a value stands for
another variable, of the environment or of an earlier line. Lines are read up to the first one that
is wrong: those in front of it count.
-/

namespace BearerClient.CommandLine.DotEnv

/-! ## Joining lines -/

/-- Where the end of a line stands with respect to quotes. -/
inductive LineState where
  /-- Outside quotes. -/
  | plain
  /-- Outside quotes, behind a blank. -/
  | blank
  /-- Outside quotes, behind a backslash. -/
  | escape
  /-- Inside double quotes, perhaps behind a backslash. -/
  | weak (escaped : Bool)
  /-- Inside single quotes, perhaps behind a backslash. -/
  | strong (escaped : Bool)
  /-- Behind a number sign that starts a comment. -/
  | comment
  deriving DecidableEq, Repr

/-- The state behind one more character. -/
def LineState.next (state : LineState) (c : Char) : LineState :=
  let outside : LineState :=
    if c = '\\' then .escape
    else if c = '"' then .weak false
    else if c = '\'' then .strong false
    else .plain
  match state with
  | .plain => if Text.isBlank c && c ≠ '\n' && c ≠ '\r' then .blank else outside
  | .blank => if c = '#' then .comment else outside
  | .escape => .plain
  | .weak true => .weak false
  | .weak false => if c = '\\' then .weak true else if c = '"' then .plain else .weak false
  | .strong true => .strong false
  | .strong false =>
    if c = '\\' then .strong true else if c = '\'' then .plain else .strong false
  | .comment => .comment

/-- The state at the end of a line, and the part of the line in front of a comment. -/
def scanLine : LineState → List Char → LineState × List Char
  | state, [] => (state, [])
  | state, c :: rest =>
    match state.next c with
    | .comment => (.comment, [])
    | next =>
      let (final, kept) := scanLine next rest
      (final, c :: kept)

/-- The lines of a text, each with its line break. -/
def physicalLines : List Char → List (List Char)
  | [] => []
  | c :: rest =>
    if c = '\n' then [c] :: physicalLines rest
    else match physicalLines rest with
      | [] => [[c]]
      | line :: lines => (c :: line) :: lines

/-- A line without its line break. -/
def dropLineBreak (line : List Char) : List Char :=
  match line.reverse with
  | '\n' :: '\r' :: rest => rest.reverse
  | '\n' :: rest => rest.reverse
  | _ => line

/-- Joins the lines of quoted values; `open` holds what is read of an unfinished one. The last entry
is none if the text ends inside a value. -/
def logicalLines : LineState → List Char → List (List Char) → List (Option (List Char))
  | state, _, [] => if state = .plain then [] else [none]
  | state, opened, line :: lines =>
    if ((opened ++ line).dropWhile Text.isBlank).head? = some '#' then
      some [] :: logicalLines .plain [] lines
    else
      let (final, kept) := scanLine state line
      match final with
      | .plain => some (dropLineBreak (opened ++ line)) :: logicalLines .plain [] lines
      | .comment => some (opened ++ kept) :: logicalLines .plain [] lines
      | final => logicalLines final (opened ++ line) lines

/-! ## Values -/

/-- Looks a variable up: in the environment, then among those of the earlier lines. -/
def lookUp (env earlier : Environment) (name : String) : String :=
  (env.get? name <|> earlier.get? name).getD ""

/-- Where a reader stands inside a value. -/
inductive ValueState where
  /-- Outside quotes. -/
  | plain
  /-- Inside double quotes. -/
  | weak
  /-- Inside single quotes. -/
  | strong
  /-- Behind a backslash, inside double quotes or outside. -/
  | escape (weak : Bool)
  /-- In the name of a variable, whose characters come last first. -/
  | name (weak : Bool) (read : List Char)
  /-- In the name of a variable between braces. -/
  | braced (weak : Bool) (read : List Char)
  /-- Behind a blank outside quotes, where only a comment may follow. -/
  | ended
  deriving DecidableEq, Repr

/-- The state between two characters, inside double quotes or outside. -/
def ValueState.text (weak : Bool) : ValueState := if weak then .weak else .plain

/-- Whether `c` may stand in the name of a variable that is not between braces. -/
def isNameChar (c : Char) : Bool := Text.isAlphanumeric c

/-- Reads a value from a state on; none if it is wrong. -/
def readValue (look : String → String) : ValueState → List Char → Option (List Char)
  | .ended, c :: rest =>
    if c = ' ' ∨ c = '\t' then readValue look .ended rest
    else if c = '#' then some []
    else none
  | .escape weak, c :: rest =>
    if ['\\', '\'', '"', '$', ' '].contains c then
      (readValue look (.text weak) rest).map (c :: ·)
    else if c = 'n' then (readValue look (.text weak) rest).map ('\n' :: ·)
    else none
  | .strong, c :: rest =>
    if c = '\'' then readValue look .plain rest
    else (readValue look .strong rest).map (c :: ·)
  | .name weak read, c :: rest =>
    if isNameChar c then readValue look (.name weak (c :: read)) rest
    else if c = '\x7b' && read.isEmpty then readValue look (.braced weak []) rest
    else
      let value := (look (.ofList read.reverse)).toList
      if c = '$' then (readValue look (.name weak []) rest).map (value ++ ·)
      else (readValue look (.text weak) rest).map (value ++ c :: ·)
  | .braced weak read, c :: rest =>
    if c = '\x7d' then
      (readValue look (.text weak) rest).map ((look (.ofList read.reverse)).toList ++ ·)
    else readValue look (.braced weak (c :: read)) rest
  | .weak, c :: rest =>
    if c = '$' then readValue look (.name true []) rest
    else if c = '"' then readValue look .plain rest
    else if c = '\\' then readValue look (.escape true) rest
    else (readValue look .weak rest).map (c :: ·)
  | .plain, c :: rest =>
    if c = '$' then readValue look (.name false []) rest
    else if c = '\'' then readValue look .strong rest
    else if c = '"' then readValue look .weak rest
    else if c = '\\' then readValue look (.escape false) rest
    else if c = ' ' ∨ c = '\t' then readValue look .ended rest
    else (readValue look .plain rest).map (c :: ·)
  | .plain, [] | .escape false, [] | .ended, [] => some []
  | .name false read, [] => some (look (.ofList read.reverse)).toList
  | _, [] => none

/-! ## Lines -/

/-- Splits off a name: a letter or underscore, then letters, digits, underscores and points. -/
def name? (cs : List Char) : Option (String × List Char) :=
  let isPart (c : Char) : Bool := c.isAlphanum || c = '_' || c = '.'
  match cs with
  | [] => none
  | c :: _ =>
    if c.isAlpha || c = '_' then some (.ofList (cs.takeWhile isPart), cs.dropWhile isPart) else none

/-- The text without its leading blanks. -/
def skipBlanks (cs : List Char) : List Char := cs.dropWhile Text.isBlank

/-- Splits off the name of a line and the equals sign behind it; the word `export` may stand in
front. -/
def nameAndEquals? (cs : List Char) : Option (String × List Char) := do
  let (name, rest) ← name? cs
  match skipBlanks rest with
  | '=' :: rest => some (name, rest)
  | rest =>
    if name = "export" then
      let (name, rest) ← name? rest
      match skipBlanks rest with
      | '=' :: rest => some (name, rest)
      | _ => none
    else none

/-- What a line says: nothing, a variable and its value, or (none) that it is wrong. -/
def readLine? (env earlier : Environment) (line : List Char) : Option (Option (String × String)) :=
  let trimmed := skipBlanks (line.reverse.dropWhile Text.isBlank).reverse
  if trimmed.isEmpty || trimmed.head? = some '#' then some none
  else do
    let (name, rest) ← nameAndEquals? trimmed
    let rest := skipBlanks rest
    if rest.isEmpty || rest.head? = some '#' then some (some (name, ""))
    else
      let value ← readValue (lookUp env earlier) .plain rest
      some (some (name, .ofList value))

/-- Adds the variables of the lines up to the first wrong one. The environment wins over the file,
and an earlier line over a later one; a later value is seen by the lines behind it all the same. -/
def addLines : Environment → Environment → List (Option (List Char)) → Environment
  | env, _, [] => env
  | env, _, none :: _ => env
  | env, earlier, some line :: lines =>
    match readLine? env earlier line with
    | none => env
    | some none => addLines env earlier lines
    | some (some (name, value)) =>
      let env := if (env.get? name).isSome then env else env ++ [(name, value)]
      addLines env ((name, value) :: earlier) lines

/-- The environment with the variables of an environment file. -/
def extend (env : Environment) (file : String) : Environment :=
  let cs := match file.toList with
    | '\uFEFF' :: rest => rest
    | cs => cs
  addLines env [] (logicalLines .plain [] (physicalLines cs))

/-- Every variable that an environment file can set or refer to is among these texts: the runs of
name characters, and what stands behind an opening brace up to the next closing one. -/
def mentionedNames (file : String) : List String :=
  let runs (isPart : Char → Bool) : List String :=
    ((file.toList.splitBy fun a b => isPart a == isPart b).filter (·.all isPart)).map .ofList
  let braced := (file.splitOn "\x7b").map fun part => (part.splitOn "\x7d").headD ""
  runs isNameChar ++ runs (fun c => c = '_' || c = '.' || isNameChar c) ++ braced

end BearerClient.CommandLine.DotEnv
