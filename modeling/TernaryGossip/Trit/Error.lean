import TernaryGossip.Text.Quoted

/-!
# What can be wrong with ternary text and bytes

    One constructor per cause, and the wording of each in `message`.
-/

namespace TernaryGossip

/-- Why packed bytes or tryte text cannot be read, or trits not be written. -/
inductive TritError
  /-- The byte, read as signed, at this position packs no group of trits. -/
  | invalidByte (value : Int) (position : Nat)
  /-- The character is not in the tryte alphabet. -/
  | invalidTryte (character : Char)
  /-- The number of trits is not a multiple of three. -/
  | unalignedTrits (count : Nat)
  /-- The text has another number of trytes than expected. -/
  | invalidLength (expected got : Nat)
  deriving DecidableEq, Repr

/-- The text shown for an error. -/
def TritError.message : TritError → String
  | .invalidByte value position => s!"byte {value} at position {position} is not a packed trit group"
  | .invalidTryte c => "character " ++ Text.quotedChar c ++ " is not a tryte"
  | .unalignedTrits count => s!"trit count {count} is not a multiple of three"
  | .invalidLength expected got => s!"expected {expected} trytes, got {got}"

end TernaryGossip
