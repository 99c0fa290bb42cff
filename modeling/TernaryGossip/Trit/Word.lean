import TernaryGossip.Trit.Balanced

/-!
# Balanced ternary numbers of 64 bits

    A number of 64 bits fills places with its digits.  The other way round
    the places are read from the most significant one on: what was read so
    far is tripled, and the next place is added.  Each of the two has to stay
    within 64 bits.
-/

namespace TernaryGossip.Balanced

/-- A number as one of 64 bits, if it is in their range. -/
def fits? (v : Int) : Option Int64 :=
  if Int64.minValue.toInt ≤ v ∧ v ≤ Int64.maxValue.toInt then some (Int64.ofInt v) else none

/-- Reads one more place. -/
def append? (w : Int64) (t : Int) : Option Int64 := do
  let tripled ← fits? (w.toInt * 3)
  fits? (tripled.toInt + t)

/-- The number of 64 bits that a sequence of places stands for; `none` if a
step on the way is out of range. -/
def word? : Trits → Option Int64
  | [] => some 0
  | t :: ts => do append? (← word? ts) t

/-- The last `n` digits of a number of 64 bits. -/
def wordDigits (n : Nat) (w : Int64) : Trits := digits n w.toInt

end TernaryGossip.Balanced
