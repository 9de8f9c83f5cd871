/-!
# Binary floating-point numbers

A finite double-precision number is a sign and a magnitude `significand · 2 ^ exponent`, counted in
units of `2 ^ -1074`, the least positive double. Every operation is exact arithmetic on naturals
followed by one rounding to the nearest double, ties to the even significand.
-/

namespace BearerClient

/-- A finite double: `± significand · 2 ^ exponent` units of `2 ^ -1074`. The significand is below
`2 ^ 53`, and at least `2 ^ 52` unless the exponent is zero. -/
structure Binary64 where
  /-- Whether the sign bit is set; zero has two signs. -/
  negative : Bool
  /-- The integer that the power of two scales. -/
  significand : Nat
  /-- The power of two, in units of `2 ^ -1074`. -/
  exponent : Nat
  deriving DecidableEq, Repr

namespace Binary64

/-- The number of units of `2 ^ -1074` in one. -/
def unitsPerOne : Nat := Nat.pow 2 1074

/-- The quotient `num / den` rounded to the nearest natural, a half to the even one. -/
def divNearest (num den : Nat) : Nat :=
  let q := num / den
  let r := num % den
  if 2 * r < den then q
  else if den < 2 * r then q + 1
  else if q % 2 = 0 then q else q + 1

/-- The double nearest to `± num / den`, a tie going to the even significand; `none` when that lies
beyond the greatest finite double. -/
def ofRatio (negative : Bool) (num den : Nat) : Option Binary64 :=
  let units := num * unitsPerOne
  let exponent := (units / den).log2 - 52
  let significand := divNearest units (den * Nat.pow 2 exponent)
  let (significand, exponent) :=
    if significand = Nat.pow 2 53 then (Nat.pow 2 52, exponent + 1) else (significand, exponent)
  if exponent ≤ 2045 then some ⟨negative, significand, exponent⟩ else none

/-- Zero with the given sign. -/
def zero (negative : Bool) : Binary64 := ⟨negative, 0, 0⟩

/-- The double nearest to a natural. -/
def ofNat (negative : Bool) (n : Nat) : Option Binary64 := ofRatio negative n 1

/-- The double nearest to `10 ^ n`. -/
def tenPow (n : Nat) : Option Binary64 := ofNat false (Nat.pow 10 n)

/-- The magnitude as a number of units of `2 ^ -1074`. -/
def units (x : Binary64) : Nat := x.significand * Nat.pow 2 x.exponent

/-- Whether the magnitude is zero. -/
def isZero (x : Binary64) : Bool := x.significand = 0

/-- The rounded product; `none` on overflow. -/
def mul (x y : Binary64) : Option Binary64 :=
  ofRatio (x.negative != y.negative) (x.units * y.units) (unitsPerOne * unitsPerOne)

/-- The rounded quotient by a number other than zero; `none` on overflow. -/
def div (x y : Binary64) : Option Binary64 :=
  ofRatio (x.negative != y.negative) x.units y.units

/-- The same magnitude with the other sign. -/
def neg (x : Binary64) : Binary64 := { x with negative := !x.negative }

end Binary64

end BearerClient
