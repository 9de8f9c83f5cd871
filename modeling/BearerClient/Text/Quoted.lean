import BearerClient.Text.Hexadecimal
import BearerClient.Text.Unprintable

/-!
# Quoted display of a text

Texts inside a displayed record or an error message stand between double quotes, with the quote, the
backslash and the common controls escaped by a letter and every other unprintable character by its
number in braces. The quoted form is for readers: no part of the program reads it back.
-/

namespace BearerClient.Text

/-- How one character is written inside double quotes. -/
def quoteChar (c : Char) : List Char :=
  match c with
  | '\x00' => ['\\', '0']
  | '\t' => ['\\', 't']
  | '\n' => ['\\', 'n']
  | '\r' => ['\\', 'r']
  | '"' => ['\\', '"']
  | '\\' => ['\\', '\\']
  | c => if isUnprintable c then ['\\', 'u', '\x7b'] ++ hexDigits c.toNat ++ ['\x7d'] else [c]

/-- The text between double quotes, its characters escaped by `quoteChar`. -/
def quote (s : String) : String :=
  .ofList ('"' :: s.toList.flatMap quoteChar ++ ['"'])

end BearerClient.Text
