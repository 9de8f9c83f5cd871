import BearerClient.Json
import BearerClient.Binary64.Shortest

/-!
# Writing JSON

The compact form has no blanks at all; it is what goes over the wire. The pretty form, for the
terminal, puts each item and member on a line of its own, two spaces deeper than what holds it.
Both escape only what must be escaped: the quote, the backslash and the controls below U+0020.
-/

namespace BearerClient.Json

/-- The lower-case hexadecimal digit for a number below sixteen. -/
def hexDigit (n : Nat) : Char := Nat.digitChar n

/-- How one character is written inside a string. -/
def escapeChar (c : Char) : List Char :=
  match c with
  | '"' => ['\\', '"']
  | '\\' => ['\\', '\\']
  | '\x08' => ['\\', 'b']
  | '\x0c' => ['\\', 'f']
  | '\n' => ['\\', 'n']
  | '\r' => ['\\', 'r']
  | '\t' => ['\\', 't']
  | c =>
    if c.toNat < 0x20 then
      ['\\', 'u', '0', '0', hexDigit (c.toNat / 16), hexDigit (c.toNat % 16)]
    else [c]

/-- A text between quotes. -/
def stringChars (s : String) : List Char :=
  '"' :: s.toList.flatMap escapeChar ++ ['"']

/-- The decimal digits of an integer, behind a minus sign when it is negative. -/
def intChars (i : Int) : List Char :=
  if i < 0 then '-' :: Nat.toDigits 10 i.natAbs else Nat.toDigits 10 i.natAbs

mutual

/-- The compact text of a value. -/
def chars : Json → List Char
  | .null => ['n', 'u', 'l', 'l']
  | .bool true => ['t', 'r', 'u', 'e']
  | .bool false => ['f', 'a', 'l', 's', 'e']
  | .int i => intChars i
  | .float x => x.chars
  | .str s => stringChars s
  | .arr [] => ['[', ']']
  | .arr (item :: items) => '[' :: (item.chars ++ itemsChars items)
  | .obj [] => ['\x7b', '\x7d']
  | .obj ((key, value) :: members) =>
    '\x7b' :: (stringChars key ++ ':' :: (value.chars ++ membersChars members))

/-- The text of the items after the first, up to and with the closing bracket. -/
def itemsChars : List Json → List Char
  | [] => [']']
  | item :: items => ',' :: (item.chars ++ itemsChars items)

/-- The text of the members after the first, up to and with the closing brace. -/
def membersChars : List (String × Json) → List Char
  | [] => ['\x7d']
  | (key, value) :: members =>
    ',' :: (stringChars key ++ ':' :: (value.chars ++ membersChars members))

end

/-- The compact text of a value. -/
def compact (value : Json) : String := .ofList value.chars

/-- A line break followed by the indentation of the given depth. -/
def lineBreak (depth : Nat) : List Char := '\n' :: List.replicate (2 * depth) ' '

mutual

/-- The pretty text of a value that stands at the given depth. -/
def prettyChars (depth : Nat) : Json → List Char
  | .arr (item :: items) =>
    '[' :: (lineBreak (depth + 1) ++ item.prettyChars (depth + 1) ++ prettyItems depth items)
  | .obj ((key, value) :: members) =>
    '\x7b' :: (lineBreak (depth + 1) ++ stringChars key ++ [':', ' '] ++
      value.prettyChars (depth + 1) ++ prettyMembers depth members)
  | value => value.chars

/-- The pretty text of the items after the first, up to and with the closing bracket. -/
def prettyItems (depth : Nat) : List Json → List Char
  | [] => lineBreak depth ++ [']']
  | item :: items =>
    ',' :: (lineBreak (depth + 1) ++ item.prettyChars (depth + 1) ++ prettyItems depth items)

/-- The pretty text of the members after the first, up to and with the closing brace. -/
def prettyMembers (depth : Nat) : List (String × Json) → List Char
  | [] => lineBreak depth ++ ['\x7d']
  | (key, value) :: members =>
    ',' :: (lineBreak (depth + 1) ++ stringChars key ++ [':', ' '] ++
      value.prettyChars (depth + 1) ++ prettyMembers depth members)

end

/-- The pretty text of a value. -/
def pretty (value : Json) : String := .ofList (value.prettyChars 0)

end BearerClient.Json
