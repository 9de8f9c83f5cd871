/-!
# Hexadecimal numbers

Escapes in texts and tables of characters write numbers with the digits `0` to `9` and `a` to `f`,
in either case.
-/

namespace BearerClient.Text

/-- The value of a hexadecimal digit in either case. -/
def hexDigitValue? (c : Char) : Option Nat :=
  if '0' ≤ c && c ≤ '9' then some (c.toNat - '0'.toNat)
  else if 'a' ≤ c && c ≤ 'f' then some (c.toNat - 'a'.toNat + 10)
  else if 'A' ≤ c && c ≤ 'F' then some (c.toNat - 'A'.toNat + 10)
  else none

/-- The number that digits stand for, the most significant first; nothing stands for zero. -/
def hexNumber? (digits : List Char) : Option Nat :=
  digits.foldlM (fun n c => (hexDigitValue? c).map (n * 16 + ·)) 0

/-- The lower-case hexadecimal digits of `n`, without leading zeros. -/
def hexDigits (n : Nat) : List Char := Nat.toDigits 16 n

end BearerClient.Text
