import BearerClient.Text.Hexadecimal

/-!
# Percent encoding

Each part of a URL has a set of characters that may not stand in it as they are. Those, and
everything outside printable ASCII, are written as the bytes of their UTF-8 form, each as a percent
sign and two upper-case hexadecimal digits.
-/

namespace BearerClient.Url

/-- Whether `c` is a control or outside ASCII, and so never stands in a URL as it is. -/
def isOutsidePrintable (c : Char) : Bool := c.toNat < 0x20 || 0x7E < c.toNat

/-- The characters encoded in a fragment. -/
def inFragmentSet (c : Char) : Bool :=
  isOutsidePrintable c || c = ' ' || c = '"' || c = '<' || c = '>' || c = '\x60'

/-- The characters encoded in a path. -/
def inPathSet (c : Char) : Bool :=
  inFragmentSet c || c = '#' || c = '?' || c = '\x7b' || c = '\x7d'

/-- The characters encoded in the query of a URL whose scheme is not special. -/
def inQuerySet (c : Char) : Bool :=
  isOutsidePrintable c || c = ' ' || c = '"' || c = '#' || c = '<' || c = '>'

/-- The characters encoded in the query of a URL with a special scheme. -/
def inSpecialQuerySet (c : Char) : Bool := inQuerySet c || c = '\''

/-- The characters encoded in a user name or password. -/
def inUserinfoSet (c : Char) : Bool :=
  inPathSet c || c = '/' || c = ':' || c = ';' || c = '=' || c = '@' || c = '[' || c = '\\' ||
    c = ']' || c = '^' || c = '|'

/-- The upper-case hexadecimal digit for a number below sixteen. -/
def upperHexDigit (n : Nat) : Char := (Nat.digitChar n).toUpper

/-- A byte as a percent sign and two digits. -/
def percentByte (b : UInt8) : List Char :=
  ['%', upperHexDigit (b.toNat / 16), upperHexDigit (b.toNat % 16)]

/-- The character itself, or its encoded bytes if it is in the set. -/
def percentChar (inSet : Char → Bool) (c : Char) : List Char :=
  if inSet c then (String.utf8EncodeChar c).flatMap percentByte else [c]

/-- The text with the characters of the set encoded. -/
def percentEncode (inSet : Char → Bool) (cs : List Char) : List Char :=
  cs.flatMap (percentChar inSet)

/-- The bytes of a text in which each percent sign with two digits stands for one byte; any other
percent sign stands for itself. -/
def percentDecode : List Char → List UInt8
  | '%' :: a :: b :: rest =>
    match Text.hexDigitValue? a, Text.hexDigitValue? b with
    | some high, some low => UInt8.ofNat (high * 16 + low) :: percentDecode rest
    | _, _ => 0x25 :: percentDecode (a :: b :: rest)
  | c :: rest => String.utf8EncodeChar c ++ percentDecode rest
  | [] => []

end BearerClient.Url
