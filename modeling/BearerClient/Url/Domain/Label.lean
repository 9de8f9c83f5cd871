import BearerClient.Text.Joining
import BearerClient.Text.Mark
import BearerClient.Url.Domain.Mapping
import BearerClient.Url.Punycode

/-!
# The labels of a domain name

A label is a text in mapped form, or such a text in punycode behind `xn--`; the latter must be what
its text is written as. A label does not start with a mark, and the two joiners, which do not show,
stand only where they change how a word is written: behind a virama, or, for the one that keeps
letters apart, between letters that would join.
-/

namespace BearerClient.Url.Domain

/-- A label of a domain name. -/
structure Label where
  /-- The characters that it stands for. -/
  text : List Char
  /-- How it is written in ASCII. -/
  ascii : List Char
  deriving DecidableEq, Repr

/-- What stands in front of the punycode of a label. -/
def punycodeMark : List Char := ['x', 'n', '-', '-']

/-- Whether all characters are ASCII. -/
def isAscii (cs : List Char) : Bool := cs.all (·.toNat < 0x80)

/-- Whether `c` may not stand in a domain name as it is mapped: a control, a blank, or a sign with a
meaning in URLs. -/
def isForbidden (c : Char) : Bool :=
  c.toNat ≤ 0x20 ||
    ['%', '#', '/', ':', '<', '>', '?', '@', '[', '\\', ']', '^', '|', '\x7f'].contains c

/-- The longest text outside ASCII that a label stands for. -/
def maxTextLength : Nat := 1000

/-- The longest punycode that is read. -/
def maxPunycodeLength : Nat := 2000

/-! ## What a text may be -/

/-- The joiner that keeps letters apart. -/
def nonJoiner : Char := '\u200C'

/-- The joiner that makes letters join. -/
def joiner : Char := '\u200D'

/-- Whether `c` marks a consonant without a vowel. -/
def isVirama (c : Char) : Bool := Text.combiningClass c = 9

/-- Whether a joiner may stand behind a reversed text and in front of another. -/
def mayJoin (c : Char) (before after : List Char) : Bool :=
  match before with
  | [] => false
  | previous :: _ => isVirama previous || (c = nonJoiner &&
      Text.startsWithJoining Text.forwardJoining before &&
      Text.startsWithJoining Text.backwardJoining after)

/-- Whether every joiner of a text, which continues a reversed one, may stand where it does. -/
def joinersMatter (before : List Char) : List Char → Bool
  | [] => true
  | c :: rest =>
    (!(c = nonJoiner || c = joiner) || mayJoin c before rest) && joinersMatter (c :: before) rest

/-- Whether a mapped text can be a label. -/
def isLabelText (text : List Char) : Bool :=
  isAscii text ||
    (!text.head?.any Text.isMark && joinersMatter [] text && text.length ≤ maxTextLength)

/-! ## Reading labels -/

/-- The text that punycode stands for, if it is in mapped form. -/
def textOfPunycode? (code : List Char) : Option (List Char) := do
  if code.isEmpty || code.getLast? = some '-' || maxPunycodeLength < code.length then none
  else
    let text ← Punycode.decode? code
    if map? text = some text && !text.any fun c => isForbidden c || c = '.' then some text else none

/-- Reads a label of a mapped name. -/
def Label.ofMapped? (cs : List Char) : Option Label := do
  let label ←
    if cs.take 4 = punycodeMark then (textOfPunycode? (cs.drop 4)).map fun text => ⟨text, cs⟩
    else some ⟨cs, if isAscii cs then cs else punycodeMark ++ Punycode.encode cs⟩
  if isLabelText label.text then some label else none

end BearerClient.Url.Domain
