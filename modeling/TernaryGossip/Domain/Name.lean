import TernaryGossip.Domain.Direction
import TernaryGossip.Domain.Label

/-!
# Domain names

    A domain name is mapped, taken apart at its dots, checked label by label
    and as a whole, and written in ASCII.
-/

namespace TernaryGossip.Domain

/-- The written form of a domain name. -/
def written? (name : List Char) : Option (List Char) := do
  let cs ← mapped? name
  if cs.any isForbidden then none
  else
    let labels ← (Text.pieces (· == '.') cs).mapM Label.ofMapped?
    if runsOneWay (labels.map Label.read) then
      some (['.'].intercalate (labels.map Label.written))
    else none

end TernaryGossip.Domain
