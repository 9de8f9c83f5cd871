/-!
# Splitting at separators

The parts of a list between its separators. There is always at least one part, and parts may be
empty.
-/

namespace BearerClient.Text

/-- The parts of a list between the members that satisfy `p`. -/
def splitWhere {α : Type} (p : α → Bool) : List α → List (List α)
  | [] => [[]]
  | c :: rest =>
    if p c then [] :: splitWhere p rest
    else match splitWhere p rest with
      | part :: parts => (c :: part) :: parts
      | [] => [[c]]

end BearerClient.Text
