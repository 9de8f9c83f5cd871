import BearerClient.Binary64

/-!
# Shortest decimal text

A double is written with the fewest digits that no other double is closer to, and of the decimals
with that many digits the one nearest to the double. Numbers from `1e-5` up to below `1e16` are
written positionally, always with a fraction; the others carry a signed exponent.
-/

namespace BearerClient.Binary64

/-- A positive decimal `digits · 10 ^ exponent`. -/
structure Decimal where
  /-- The digits as a natural. -/
  digits : Nat
  /-- The power of ten of the last digit. -/
  exponent : Int
  deriving DecidableEq, Repr

/-- The number of decimal digits of `n`. -/
def digitCount (n : Nat) : Nat := (Nat.toDigits 10 n).length

/-- The power of ten of the first digit of the positive ratio `num / den`. -/
def leadingPower (num den : Nat) : Int :=
  if den ≤ num then digitCount (num / den) - 1
  else -(digitCount ((den - 1) / num) : Int)

/-- The ratio `num / den` scaled by a power of ten, as a ratio. -/
def scaleTen (num den : Nat) (power : Int) : Nat × Nat :=
  match power with
  | .ofNat n => (num * Nat.pow 10 n, den)
  | .negSucc n => (num, den * Nat.pow 10 (n + 1))

/-- The doubles' neighbourhood of a positive double, in quarters of a unit: a real strictly between
the bounds rounds to the double, and so does a bound itself when the significand is even. -/
structure Neighbourhood where
  /-- The lower bound in quarters of a unit. -/
  low : Nat
  /-- The upper bound in quarters of a unit. -/
  high : Nat
  /-- Whether the bounds themselves round to the double. -/
  closed : Bool

/-- The reals that round to `x`. Below a power of two the next double is only half as far away. -/
def neighbourhood (x : Binary64) : Neighbourhood :=
  let below := if x.significand = Nat.pow 2 52 ∧ 0 < x.exponent then 1 else 2
  { low := (4 * x.significand - below) * Nat.pow 2 x.exponent
    high := (4 * x.significand + 2) * Nat.pow 2 x.exponent
    closed := x.significand % 2 = 0 }

/-- Whether the decimal `d` rounds to the double with neighbourhood `n`. -/
def Neighbourhood.holds (n : Neighbourhood) (d : Decimal) : Bool :=
  let (num, den) := scaleTen (d.digits * 4 * unitsPerOne) 1 d.exponent
  if n.closed then n.low * den ≤ num && num ≤ n.high * den
  else n.low * den < num && num < n.high * den

/-- The decimal with `count` digits that rounds to `x` and is nearest to it, if one does. Only the
two decimals around `x` can be nearest; of two equally near the even one is taken. -/
def decimalWith? (x : Binary64) (count : Nat) : Option Decimal :=
  let lead := leadingPower x.units unitsPerOne
  let exponent := lead - (count - 1 : Nat)
  let (num, den) := scaleTen x.units unitsPerOne (-exponent)
  let near := divNearest num den
  let floor := num / den
  let other := if near = floor then floor + 1 else floor
  [near, other].map (Decimal.mk · exponent) |>.find? x.neighbourhood.holds

/-- Drops the zeros at the end of the digits, at most `count` of them. -/
def Decimal.stripZeros (d : Decimal) : Nat → Decimal
  | 0 => d
  | count + 1 =>
    if d.digits ≠ 0 ∧ d.digits % 10 = 0 then
      Decimal.stripZeros ⟨d.digits / 10, d.exponent + 1⟩ count
    else d

/-- The shortest decimal that rounds to the positive double `x`; seventeen digits always suffice. -/
def shortest (x : Binary64) : Decimal :=
  match (List.range' 1 17).findSome? x.decimalWith? with
  | some d => d.stripZeros 17
  | none => ⟨0, 0⟩

/-- A decimal in positional notation, with a fraction of at least one digit. -/
def positional (digits : List Char) (exponent : Int) : List Char :=
  match exponent with
  | .ofNat zeros => digits ++ List.replicate zeros '0' ++ ['.', '0']
  | .negSucc n =>
    let places := n + 1
    if places < digits.length then
      digits.take (digits.length - places) ++ '.' :: digits.drop (digits.length - places)
    else ['0', '.'] ++ List.replicate (places - digits.length) '0' ++ digits

/-- A decimal in scientific notation: one digit, the others behind a point, and a signed exponent.
-/
def scientific (digits : List Char) (power : Int) : List Char :=
  let mantissa := match digits with
    | first :: second :: rest => first :: '.' :: second :: rest
    | short => short
  mantissa ++ 'e' :: (if 0 ≤ power then '+' else '-') :: (toString power.natAbs).toList

/-- The text of a decimal. -/
def Decimal.chars (d : Decimal) : List Char :=
  let digits := (toString d.digits).toList
  let power := d.exponent + (digits.length - 1 : Nat)
  if -5 ≤ power ∧ power ≤ 15 then positional digits d.exponent
  else scientific digits power

/-- The text of a double. -/
def chars (x : Binary64) : List Char :=
  let magnitude := if x.isZero then ['0', '.', '0'] else x.shortest.chars
  if x.negative then '-' :: magnitude else magnitude

/-- The text of a double as a string. -/
def text (x : Binary64) : String := .ofList x.chars

end BearerClient.Binary64
