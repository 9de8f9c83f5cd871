import BearerClient.Json

/-!
# Reading JSON numbers

A number without fraction and exponent is an exact integer while it fits 64 bits. Any other number
becomes a double in two rounded steps: its leading digits, as many as fit an unsigned 64-bit word,
are rounded to a double, which is then multiplied or divided by a power of ten. For long numbers the
result can therefore differ in the last bit from the nearest double.
-/

namespace BearerClient.Json

/-- The greatest unsigned 64-bit integer. -/
def maxWord : Nat := 0xFFFFFFFFFFFFFFFF

/-- The value of a decimal digit. -/
def digitValue (c : Char) : Nat := c.toNat - '0'.toNat

/-- Appends digits to a word for as long as they fit; gives the word and the digits left over. -/
def absorb (word : Nat) : List Char → Nat × List Char
  | [] => (word, [])
  | c :: rest =>
    let next := word * 10 + digitValue c
    if next ≤ maxWord then absorb next rest else (word, c :: rest)

/-- The value of decimal digits. -/
def digitsValue (digits : List Char) : Nat :=
  digits.foldl (fun n c => n * 10 + digitValue c) 0

/-- Divides by `10 ^ power`, in steps of `10 ^ 308` while the power is greater than that. -/
def scaleDown (x : Binary64) (power : Nat) : Option Binary64 :=
  if power ≤ 308 then do x.div (← Binary64.tenPow power)
  else if x.isZero then some x
  else do scaleDown (← x.div (← Binary64.tenPow 308)) (power - 308)
  termination_by power

/-- The double for `word · 10 ^ power`; none when it is out of range. -/
def scaleWord (word : Nat) (power : Int) : Option Binary64 := do
  let x ← Binary64.ofNat false word
  match power with
  | .ofNat n =>
    if n ≤ 308 then x.mul (← Binary64.tenPow n)
    else if x.isZero then some x
    else none
  | .negSucc n => scaleDown x (n + 1)

/-- The greatest power of ten that may be written out in an exponent. -/
def maxExponent : Nat := 0x7FFFFFFF

/-- The parts of a number as they are written. -/
structure NumberText where
  /-- Whether a minus sign stands in front. -/
  negative : Bool
  /-- The digits before the point; at least one. -/
  whole : List Char
  /-- The digits after the point, if there is one. -/
  fraction : Option (List Char)
  /-- Whether the exponent is negative, and its digits, if there is one. -/
  exponent : Option (Bool × List Char)

/-- The double that a written number stands for. An exponent too great to count is an error, unless
the number is zero or the exponent negative: then the number is zero. -/
def NumberText.toFloat? (t : NumberText) : Option Binary64 := do
  let (word, rest) := absorb 0 t.whole
  let fraction := t.fraction.getD []
  let (word, restFraction) := absorb word fraction
  let power : Int := rest.length - (fraction.length - restFraction.length : Nat)
  let magnitude ← match t.exponent with
    | none => scaleWord word power
    | some (down, digits) =>
      let exponent := digitsValue digits
      if maxExponent < exponent then
        if word ≠ 0 && !down then none else some (Binary64.zero false)
      else scaleWord word (if down then power - exponent else power + exponent)
  some (if t.negative then magnitude.neg else magnitude)

/-- The value of a written number: an integer if it is one of 64 bits, else a double. Minus zero is
a double, since no integer has that sign. -/
def NumberText.value? (t : NumberText) : Option Json :=
  let n := digitsValue t.whole
  match t.fraction, t.exponent, t.negative with
  | none, none, false => if n ≤ maxWord then some (.int n) else t.toFloat?.map .float
  | none, none, true =>
    if 0 < n ∧ n ≤ 0x8000000000000000 then some (.int (-n)) else t.toFloat?.map .float
  | _, _, _ => t.toFloat?.map .float

/-- Splits off the digits at the start; none when there is no digit. -/
def digits? (cs : List Char) : Option (List Char × List Char) :=
  let digits := cs.takeWhile Char.isDigit
  if digits.isEmpty then none else some (digits, cs.dropWhile Char.isDigit)

/-- Splits off the whole part, which has no zero in front of other digits. -/
def wholePart? (cs : List Char) : Option (List Char × List Char) := do
  let (digits, rest) ← digits? cs
  match digits with
  | '0' :: _ :: _ => none
  | _ => some (digits, rest)

/-- Splits off the fraction, if a point follows. -/
def fractionPart? : List Char → Option (Option (List Char) × List Char)
  | '.' :: cs => do
    let (digits, rest) ← digits? cs
    some (some digits, rest)
  | cs => some (none, cs)

/-- Splits off the exponent, if the letter for it follows. -/
def exponentPart? : List Char → Option (Option (Bool × List Char) × List Char)
  | c :: cs =>
    if c = 'e' ∨ c = 'E' then do
      let (down, cs) := match cs with
        | '+' :: cs => (false, cs)
        | '-' :: cs => (true, cs)
        | cs => (false, cs)
      let (digits, rest) ← digits? cs
      some (some (down, digits), rest)
    else some (none, c :: cs)
  | [] => some (none, [])

/-- Reads a number at the start of the text; gives its value and the rest. -/
def readNumber (cs : List Char) : Option (Json × List Char) := do
  let (negative, cs) := match cs with
    | '-' :: cs => (true, cs)
    | cs => (false, cs)
  let (whole, cs) ← wholePart? cs
  let (fraction, cs) ← fractionPart? cs
  let (exponent, cs) ← exponentPart? cs
  let value ← (NumberText.mk negative whole fraction exponent).value?
  some (value, cs)

end BearerClient.Json
