/-!
# Blank characters

Surrounding blanks never belong to a token, a header or a tenant id, so every text that a user types
is trimmed before it is stored or sent. Blank means the Unicode property `White_Space`, which is
wider than the ASCII blanks and also holds the no-break and ideographic spaces.
-/

namespace BearerClient.Text

/-- Whether `c` has the Unicode property `White_Space`. -/
def isBlank (c : Char) : Bool :=
  let n := c.val
  (0x9 ≤ n && n ≤ 0xD) || n == 0x20 || n == 0x85 || n == 0xA0 || n == 0x1680 ||
    (0x2000 ≤ n && n ≤ 0x200A) || n == 0x2028 || n == 0x2029 || n == 0x202F || n == 0x205F ||
    n == 0x3000

/-- The characters of `cs` without the leading and trailing ones that satisfy `p`. -/
def trimWhere (p : Char → Bool) (cs : List Char) : List Char :=
  ((cs.dropWhile p).reverse.dropWhile p).reverse

/-- The text without its leading and trailing blanks. -/
def trim (s : String) : String :=
  .ofList (trimWhere isBlank s.toList)

/-- Whether nothing is left of the text once it is trimmed. -/
def isBlankText (s : String) : Bool := (trim s).isEmpty

/-- The trimmed text, absent when it is blank. -/
def trim? (s : String) : Option String :=
  let t := trim s
  if t.isEmpty then none else some t

/-- The text without the copies of `c` at its end. -/
def trimEndChar (c : Char) (s : String) : String :=
  .ofList (s.toList.reverse.dropWhile (· == c)).reverse

/-- The text without the copies of `c` at its start. -/
def trimStartChar (c : Char) (s : String) : String :=
  .ofList (s.toList.dropWhile (· == c))

end BearerClient.Text
