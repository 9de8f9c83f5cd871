import BearerClient.Text.Hexadecimal

/-!
# Tables of characters

A property of characters is a set of code points, given as closed ranges in increasing order. The
text of a table has one entry for each range, with blanks between them: the first and the last code
point in hexadecimal with a hyphen between, or the only one. Where a table assigns something to the
characters of a range, that stands behind a colon.
-/

namespace BearerClient.Text

/-- A closed range of code points. -/
structure CodeRange where
  /-- The first code point. -/
  first : Nat
  /-- The last code point. -/
  last : Nat
  deriving DecidableEq, Repr

namespace CodeRange

/-- Whether `c` lies in the range. -/
def contains (range : CodeRange) (c : Char) : Bool :=
  range.first ≤ c.toNat && c.toNat ≤ range.last

/-- Reads a range, or a single code point. -/
def ofText? (text : String) : Option CodeRange :=
  match (text.splitOn "-").map fun digits => hexNumber? digits.toList with
  | [some only] => some ⟨only, only⟩
  | [some first, some last] => some ⟨first, last⟩
  | _ => none

end CodeRange

/-- The entries of a table. -/
def tableEntries (table : String) : List String :=
  ((table.splitOn "\n").flatMap (·.splitOn " ")).filter (!·.isEmpty)

/-- The two sides of an entry that assigns something. -/
def assignment? (entry : String) : Option (String × String) :=
  match entry.splitOn ":" with
  | [range, value] => some (range, value)
  | _ => none

/-- A set of code points. -/
structure CodePoints where
  /-- The ranges of the set. -/
  ranges : Array CodeRange
  deriving Repr

namespace CodePoints

/-- The set that a table lists. -/
def ofTable (table : String) : CodePoints :=
  ⟨((tableEntries table).filterMap CodeRange.ofText?).toArray⟩

/-- Whether `c` is in the set. -/
def contains (set : CodePoints) (c : Char) : Bool := set.ranges.any (·.contains c)

end CodePoints

end BearerClient.Text
