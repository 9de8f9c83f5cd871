/-!
# Punycode

A label of a host name that is not ASCII is written in ASCII: first its ASCII characters, then for
each other character, in increasing order of number, where it is to be inserted. The positions are
differences in a variable-length notation to base 36 whose digit thresholds adapt to the label.
-/

namespace BearerClient.Url.Punycode

/-- The digit for a number below 36: letters first. -/
def digit (n : Nat) : Char :=
  if n < 26 then Char.ofNat ('a'.toNat + n) else Char.ofNat ('0'.toNat + (n - 26))

/-- The threshold below which a digit at position `k` is the last one. -/
def threshold (k bias : Nat) : Nat := max 1 (min 26 (k - bias))

theorem one_le_threshold (k bias : Nat) : 1 ≤ threshold k bias := Nat.le_max_left ..

/-- The digits of a difference `n`, from position `k` on. -/
def digits (bias : Nat) (k n : Nat) : List Char :=
  let t := threshold k bias
  if n < t then [digit n]
  else digit (t + (n - t) % (36 - t)) :: digits bias (k + 36) ((n - t) / (36 - t))
  termination_by n
  decreasing_by
    have := one_le_threshold k bias
    calc (n - threshold k bias) / (36 - threshold k bias)
        ≤ n - threshold k bias := Nat.div_le_self ..
      _ < n := by omega

/-- Divides a difference by 35 until it is at most 455; each division moves the bias by 36. -/
def settleBias (difference bias : Nat) : Nat :=
  if 455 < difference then settleBias (difference / 35) (bias + 36)
  else bias + 36 * difference / (difference + 38)
  termination_by difference
  decreasing_by exact Nat.div_lt_self (by omega) (by omega)

/-- The bias for the difference that follows `difference`, when `count` characters are placed. -/
def adapt (difference count : Nat) (first : Bool) : Nat :=
  let damped := if first then difference / 700 else difference / 2
  settleBias (damped + damped / count) 0

/-! ## Writing -/

/-- How far the writing of a label has come. -/
structure Progress where
  /-- What is written for the characters outside ASCII. -/
  output : List Char
  /-- The steps since the last character that was written. -/
  difference : Nat
  /-- The bias for the next difference. -/
  bias : Nat
  /-- How many characters are placed. -/
  placed : Nat

/-- Passes one character of the label while the characters with number `point` are placed. -/
def Progress.pass (basic point : Nat) (p : Progress) (c : Char) : Progress :=
  if c.toNat < point then { p with difference := p.difference + 1 }
  else if c.toNat = point then
    { output := p.output ++ digits p.bias 36 p.difference
      difference := 0
      bias := adapt p.difference (p.placed + 1) (p.placed = basic)
      placed := p.placed + 1 }
  else p

/-- Places the characters with the numbers in `points`, which increase from `next` on. -/
def place (label : List Char) (basic : Nat) : List Nat → Nat → Progress → Progress
  | [], _, p => p
  | point :: points, next, p =>
    let p := { p with difference := p.difference + (point - next) * (p.placed + 1) }
    let p := label.foldl (Progress.pass basic point) p
    place label basic points (point + 1) { p with difference := p.difference + 1 }

/-- Puts a number at its place among increasing ones, unless it is there. -/
def insertPoint (n : Nat) : List Nat → List Nat
  | [] => [n]
  | m :: rest =>
    if n < m then n :: m :: rest else if n = m then m :: rest else m :: insertPoint n rest

/-- The punycode of a label. -/
def encode (label : List Char) : List Char :=
  let ascii := label.filter (·.toNat < 0x80)
  let points := (label.filter (0x80 ≤ ·.toNat)).foldl (fun ps c => insertPoint c.toNat ps) []
  let p := place label ascii.length points 0x80 ⟨[], 0, 72, ascii.length⟩
  ascii ++ (if ascii.isEmpty then [] else ['-']) ++ p.output

/-! ## Reading -/

/-- The number that a digit stands for. -/
def digitValue? (c : Char) : Option Nat :=
  if c.isDigit then some (c.toNat - '0'.toNat + 26)
  else if c.isAlpha then some (c.toLower.toNat - 'a'.toNat)
  else none

/-- The weights of digits stay below this. -/
def weightLimit : Nat := 0x100000000

/-- How far the reading of a label has come. -/
structure Reading where
  /-- The characters that are placed. -/
  label : List Char
  /-- The number of the characters that are being placed. -/
  point : Nat
  /-- Where the difference that is being read counts from. -/
  start : Nat
  /-- The sum of the start and the digits of the difference so far. -/
  position : Nat
  /-- The bias for the difference. -/
  bias : Nat
  /-- The position of the next digit of the difference. -/
  digitPlace : Nat
  /-- The weight of that digit. -/
  weight : Nat

/-- Places the character that a complete difference leads to. A position behind the end of the label
goes on at its start, for the character with the next number. -/
def Reading.insert? (r : Reading) : Option Reading :=
  let count := r.label.length + 1
  let point := r.point + r.position / count
  let index := r.position % count
  if point.isValidChar then
    some
      { label := r.label.take index ++ .ofNat point :: r.label.drop index
        point := point
        start := index + 1
        position := index + 1
        bias := adapt (r.position - r.start) count (r.start = 0)
        digitPlace := 36
        weight := 1 }
  else none

/-- Reads one digit. -/
def Reading.next? (r : Reading) (c : Char) : Option Reading := do
  let value ← digitValue? c
  let limit := threshold r.digitPlace r.bias
  let r := { r with position := r.position + value * r.weight }
  if value < limit then r.insert?
  else if weightLimit ≤ r.weight * (36 - limit) then none
  else some { r with digitPlace := r.digitPlace + 36, weight := r.weight * (36 - limit) }

/-- The ASCII characters at the start of punycode, and the digits behind them. -/
def splitBasic (text : List Char) : List Char × List Char :=
  let digits := (text.reverse.takeWhile (· ≠ '-')).reverse
  let basic := text.take (text.length - digits.length - 1)
  if basic.isEmpty then ([], text) else (basic, digits)

/-- Reads punycode; none if it is wrong or stops inside a difference. -/
def decode? (text : List Char) : Option (List Char) := do
  let (basic, digits) := splitBasic text
  let r ← digits.foldlM Reading.next? ⟨basic, 0x80, 0, 0, 72, 36, 1⟩
  if r.digitPlace = 36 then some r.label else none

end BearerClient.Url.Punycode
