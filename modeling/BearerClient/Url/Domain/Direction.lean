import BearerClient.Text.Direction

/-!
# Labels in both directions

A domain name with a letter or number written from right to left could be shown in more than one
order. The rule for such names makes sure that labels stay apart: each label keeps to the direction
of its first letter, ends in a letter of that direction or a number, and does not mix the two kinds
of numbers when it runs from right to left.
-/

namespace BearerClient.Url.Domain

open Text (Direction direction)

/-- Whether a character makes the rule apply to the name that it stands in. -/
def isRightToLeft (c : Char) : Bool :=
  match direction c with
  | .rightToLeft | .arabicNumber => true
  | _ => false

/-- Whether a character of the given direction may stand in a label from left to right. -/
def fitsLeftToRight : Direction → Bool
  | .leftToRight | .europeanNumber | .neutral | .mark => true
  | .rightToLeft | .arabicNumber | .separator => false

/-- Whether a character of the given direction may stand in a label from right to left. -/
def fitsRightToLeft : Direction → Bool
  | .rightToLeft | .europeanNumber | .arabicNumber | .neutral | .mark => true
  | .leftToRight | .separator => false

/-- Whether a label, given by the directions of its characters, keeps to one direction. Marks at its
end do not count. -/
def keepsDirection (directions : List Direction) : Bool :=
  match directions with
  | [] => true
  | first :: rest =>
    match first, (rest.reverse.dropWhile (· = .mark)) with
    | .leftToRight, [] | .rightToLeft, [] => true
    | .leftToRight, last :: others =>
      (last = .leftToRight || last = .europeanNumber) && others.all fitsLeftToRight
    | .rightToLeft, last :: others =>
      (last = .rightToLeft || last = .europeanNumber || last = .arabicNumber) &&
        others.all fitsRightToLeft &&
        !((last :: others).contains .europeanNumber && (last :: others).contains .arabicNumber)
    | _, _ => false

/-- Whether the labels of a name stay apart however they are shown. -/
def directionsAgree (labels : List (List Char)) : Bool :=
  !labels.any (·.any isRightToLeft) || labels.all fun label => keepsDirection (label.map direction)

end BearerClient.Url.Domain
