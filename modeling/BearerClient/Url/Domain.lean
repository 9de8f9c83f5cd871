import BearerClient.Text.Split
import BearerClient.Url.Domain.Direction
import BearerClient.Url.Domain.Label

/-!
# Domain names

Domain names are compared and looked up in ASCII. A name is mapped, split into labels at its points,
and each label that is not ASCII is written in punycode. Names that can not be told apart when they
are shown, or could be shown in more than one order, are refused.
-/

namespace BearerClient.Url.Domain

/-- The ASCII form of a domain name; none if the name is refused. -/
def toAscii? (name : List Char) : Option (List Char) := do
  let mapped ← map? name
  if mapped.any isForbidden then none
  else
    let labels ← (Text.splitWhere (· = '.') mapped).mapM Label.ofMapped?
    if directionsAgree (labels.map (·.text)) then
      some (List.intercalate ['.'] (labels.map (·.ascii)))
    else none

end BearerClient.Url.Domain
