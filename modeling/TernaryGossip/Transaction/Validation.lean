import TernaryGossip.Transaction.Basic

/-!
# Which payloads are accepted

    A payload from the wire is accepted when it decodes, the unused trits of
    its amount are zero, the amount does not exceed the supply, and its hash
    has the required weight.  The checks run in this order, and the first
    that fails is reported.
-/

namespace TernaryGossip

/-- Why a payload is rejected. -/
inductive ValidationError
  /-- The bytes are not a transaction. -/
  | format (cause : FormatError)
  /-- The unused trits of the amount are not zero. -/
  | unusedValueTrits
  /-- The amount exceeds the supply in one direction. -/
  | valueOutOfRange (value : Int)
  /-- The hash has too few trailing zero trits. -/
  | insufficientWeight (required actual : Nat)
  deriving DecidableEq, Repr

/-- The text shown for an error. -/
def ValidationError.message : ValidationError → String
  | .format cause => "malformed payload: " ++ cause.message
  | .unusedValueTrits => "value field uses trits beyond the usable range"
  | .valueOutOfRange value => s!"value {value} exceeds the total supply"
  | .insufficientWeight required actual =>
      s!"weight magnitude {actual} is below the required {required}"

/-- Decodes a payload and checks it against a minimum weight. -/
def validate (minWeight : Nat) (payload : Bytes) : Except ValidationError Transaction :=
  match Transaction.decode payload with
  | .error e => .error (.format e)
  | .ok t =>
      if !t.unusedValueIsZero then .error .unusedValueTrits
      else if t.value.natAbs > Layout.supply.toNat then .error (.valueOutOfRange t.value)
      else if t.weight < minWeight then .error (.insufficientWeight minWeight t.weight)
      else .ok t

end TernaryGossip
