import BearerClient.Json.Number
import BearerClient.Text.Hexadecimal

/-!
# Reading JSON

A text is one value with blanks around it and nothing else. Strings must be well formed: no raw
controls, and every escaped surrogate is half of a pair. Arrays and objects nest at most 127 deep.
Readers take the text as a list of characters and give what they read with the rest.
-/

namespace BearerClient.Json

/-- Whether `c` may stand between the parts of a JSON text. -/
def isJsonBlank (c : Char) : Bool := c = ' ' || c = '\n' || c = '\r' || c = '\t'

/-- The text without its leading blanks. -/
def skipBlanks (cs : List Char) : List Char := cs.dropWhile isJsonBlank

/-! ## Strings -/

/-- Where a reader stands inside a string. -/
inductive StringState where
  /-- Between two characters. -/
  | text
  /-- Behind a backslash. -/
  | escape
  /-- Inside `\u`: the first half of a pair, if it is read; the digits still missing; their value.
  -/
  | code (high : Option Nat) (missing : Nat) (value : Nat)
  /-- Behind the first half of a pair, where a backslash must come. -/
  | pair (high : Nat)
  /-- Behind that backslash, where a `u` must come. -/
  | pairEscape (high : Nat)

/-- What a reader does with one character of a string. -/
inductive StringMove where
  /-- Goes on in another state. -/
  | goto (state : StringState)
  /-- Adds a character to the text. -/
  | emit (c : Char)
  /-- Ends the string. -/
  | close

/-- What a complete `\u` escape stands for, by itself or as the second half of a pair. -/
def codeMove (high : Option Nat) (value : Nat) : Option StringMove :=
  let isHigh := 0xD800 ≤ value && value ≤ 0xDBFF
  let isLow := 0xDC00 ≤ value && value ≤ 0xDFFF
  match high with
  | none =>
    if isHigh then some (.goto (.pair value))
    else if isLow then none
    else some (.emit (Char.ofNat value))
  | some first =>
    if isLow then some (.emit (Char.ofNat (0x10000 + (first - 0xD800) * 0x400 + (value - 0xDC00))))
    else none

/-- What the reader does with the next character; none when it may not stand there. -/
def StringState.move? : StringState → Char → Option StringMove
  | .text, '"' => some .close
  | .text, '\\' => some (.goto .escape)
  | .text, c => if c.toNat < 0x20 then none else some (.emit c)
  | .escape, c =>
    match c with
    | '"' => some (.emit '"')
    | '\\' => some (.emit '\\')
    | '/' => some (.emit '/')
    | 'b' => some (.emit '\x08')
    | 'f' => some (.emit '\x0c')
    | 'n' => some (.emit '\n')
    | 'r' => some (.emit '\r')
    | 't' => some (.emit '\t')
    | 'u' => some (.goto (.code none 4 0))
    | _ => none
  | .code high missing value, c => do
    let digit ← Text.hexDigitValue? c
    let value := value * 16 + digit
    if missing ≤ 1 then codeMove high value else some (.goto (.code high (missing - 1) value))
  | .pair high, c => if c = '\\' then some (.goto (.pairEscape high)) else none
  | .pairEscape high, c => if c = 'u' then some (.goto (.code (some high) 4 0)) else none

/-- Reads a string from the given state up to its closing quote. -/
def readStringFrom : StringState → List Char → Option (List Char × List Char)
  | _, [] => none
  | state, c :: rest =>
    match state.move? c with
    | none => none
    | some .close => some ([], rest)
    | some (.emit d) => (readStringFrom .text rest).map fun (text, rest) => (d :: text, rest)
    | some (.goto next) => readStringFrom next rest

/-- Reads a string whose opening quote is already read. -/
def readString (cs : List Char) : Option (String × List Char) :=
  (readStringFrom .text cs).map fun (text, rest) => (.ofList text, rest)

/-! ## Values -/

/-- Reads the items of an array from the first one to the closing bracket. Each item takes at least
one character, so the length of the text bounds their number. -/
def readItems (readValue : List Char → Option (Json × List Char)) :
    Nat → List Char → Option (List Json × List Char)
  | 0, _ => none
  | bound + 1, cs => do
    let (item, cs) ← readValue cs
    match skipBlanks cs with
    | ',' :: cs =>
      let (items, cs) ← readItems readValue bound cs
      some (item :: items, cs)
    | ']' :: cs => some ([item], cs)
    | _ => none

/-- Reads a key with the colon behind it. -/
def readKey (cs : List Char) : Option (String × List Char) :=
  match skipBlanks cs with
  | '"' :: cs => do
    let (key, cs) ← readString cs
    match skipBlanks cs with
    | ':' :: cs => some (key, cs)
    | _ => none
  | _ => none

/-- Reads the members of an object from the first one to the closing brace, bounded as the items of
an array are. -/
def readMembers (readValue : List Char → Option (Json × List Char)) :
    Nat → List Char → Option (List (String × Json) × List Char)
  | 0, _ => none
  | bound + 1, cs => do
    let (key, cs) ← readKey cs
    let (value, cs) ← readValue cs
    match skipBlanks cs with
    | ',' :: cs =>
      let (members, cs) ← readMembers readValue bound cs
      some ((key, value) :: members, cs)
    | '\x7d' :: cs => some ([(key, value)], cs)
    | _ => none

/-- Reads an array whose opening bracket is already read. -/
def readArray (readValue : List Char → Option (Json × List Char)) (cs : List Char) :
    Option (Json × List Char) :=
  match skipBlanks cs with
  | ']' :: cs => some (.arr [], cs)
  | cs => (readItems readValue cs.length cs).map fun (items, cs) => (.arr items, cs)

/-- Reads an object whose opening brace is already read. -/
def readObject (readValue : List Char → Option (Json × List Char)) (cs : List Char) :
    Option (Json × List Char) :=
  match skipBlanks cs with
  | '\x7d' :: cs => some (.obj [], cs)
  | cs => (readMembers readValue cs.length cs).map fun (members, cs) => (.ofMembers members, cs)

/-- Reads a value that holds no other: a word, a number or a string. -/
def readLeaf : List Char → Option (Json × List Char)
  | 'n' :: 'u' :: 'l' :: 'l' :: cs => some (.null, cs)
  | 't' :: 'r' :: 'u' :: 'e' :: cs => some (.bool true, cs)
  | 'f' :: 'a' :: 'l' :: 's' :: 'e' :: cs => some (.bool false, cs)
  | '"' :: cs => (readString cs).map fun (text, cs) => (.str text, cs)
  | cs => readNumber cs

/-- Reads a value in which arrays and objects nest at most `depth` deep. -/
def readValue : Nat → List Char → Option (Json × List Char)
  | depth, cs =>
    match skipBlanks cs, depth with
    | '[' :: cs, depth + 1 => readArray (readValue depth) cs
    | '\x7b' :: cs, depth + 1 => readObject (readValue depth) cs
    | cs, _ => readLeaf cs

/-- How deep arrays and objects may nest. -/
def maxDepth : Nat := 127

/-- The value of a whole text. -/
def parse? (text : String) : Option Json := do
  let (value, rest) ← readValue maxDepth text.toList
  if (skipBlanks rest).isEmpty then some value else none

/-- The value of a body, which must be UTF-8. -/
def parseBytes? (bytes : ByteArray) : Option Json := do
  parse? (← String.fromUTF8? bytes)

/-- How a text that is not JSON is described; where it goes wrong is not told. -/
def syntaxError : String := "<json syntax error>"

end BearerClient.Json
