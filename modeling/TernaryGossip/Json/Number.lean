import TernaryGossip.Json.Parser
import TernaryGossip.Number.Binary64

/-!
# The numbers of JSON literals

    A literal without point and exponent is a whole number of 64 bits, unless
    it is too large for one or is a negative zero.  Every other literal is a
    binary number: its first digits that fit into 64 bits, scaled by the
    power of ten of its last digit read.  The scaling is one multiplication
    or division, which rounds once more, so a literal with many digits need
    not yield the number nearest to it.

    Digits before the point that no longer fit still count as a power of
    ten; digits after it are left out.
-/

namespace TernaryGossip.Json

/-- Numbers from here on do not fit into 64 bits. -/
def limit : Nat := Nat.pow 2 64

/-- The digits read so far, as a number, and the power of ten that they are
scaled by. -/
structure Scaled where
  /-- The digits. -/
  digits : Nat
  /-- The power of ten. -/
  power : Int
  /-- A digit did not fit. -/
  full : Bool
  deriving DecidableEq, Repr

/-- Reads a digit before the point. -/
def Scaled.whole (x : Scaled) (c : Char) : Scaled :=
  let n := 10 * x.digits + (c.toNat - 48)
  if x.full then { x with power := x.power + 1 }
  else if n < limit then { x with digits := n }
  else { x with power := x.power + 1, full := true }

/-- Reads a digit after the point. -/
def Scaled.fraction (x : Scaled) (c : Char) : Scaled :=
  let n := 10 * x.digits + (c.toNat - 48)
  if x.full then x
  else if n < limit then { x with digits := n, power := x.power - 1 }
  else { x with full := true }

/-- The digits and the power of ten of a literal without its exponent. -/
def Numeral.scaled (n : Numeral) : Scaled :=
  let x := n.whole.foldl Scaled.whole ⟨0, 0, false⟩
  (n.fraction.getD []).foldl Scaled.fraction { x with full := false }

/-- The value of an exponent; `none` when it is `2 ^ 31` or more. -/
def exponentValue? (ds : List Char) : Option Nat :=
  let n := ds.foldl (fun acc c => if acc < Nat.pow 2 31 then 10 * acc + (c.toNat - 48) else acc) 0
  if n < Nat.pow 2 31 then some n else none

/-- A power of ten kept within 32 bits. -/
def clampPower (p : Int) : Int := max (-2147483648) (min 2147483647 p)

/-- Divides by powers of ten of at most `10 ^ 308` each, at most `fuel` of
them, until nothing is left of the number or of the power. -/
def overPowers : Nat → Binary64 → Nat → Binary64
  | 0, x, _ => x
  | fuel + 1, x, p =>
      if x.isZero then x
      else if p ≤ 308 then x.overPower p
      else overPowers fuel (x.overPower 308) (p - 308)

/-- The binary number `digits * 10 ^ power`, by one scaling; `none` if it is
too large. -/
def scale? (digits : Nat) (power : Int) : Option Binary64 :=
  let x := Binary64.ofNat digits
  if power < 0 then some (overPowers 4 x (-power).toNat)
  else if power ≤ 308 then
    let y := x.timesPower power.toNat
    if y.isInfinite then none else some y
  else if x.isZero then some x
  else none

/-- The magnitude of a literal as a binary number. -/
def Numeral.magnitude? (n : Numeral) : Option Binary64 :=
  let x := n.scaled
  match n.exponent with
  | none =>
      if n.fraction.isNone ∧ x.power = 0 then some (Binary64.ofNat x.digits)
      else scale? x.digits x.power
  | some (down, ds) =>
      match exponentValue? ds with
      | some e => scale? x.digits (clampPower (if down then x.power - e else x.power + e))
      | none => if x.digits ≠ 0 ∧ !down then none else some (Binary64.ofNat 0)

/-- The binary number of a value; `none` if it is not a number, or too large
for one. -/
def binary64? : Json → Option Binary64
  | .number literal => do
      let n ← Numeral.ofLiteral? literal
      let x ← n.magnitude?
      return if n.negative then x.neg else x
  | _ => none

/-- The natural number of 64 bits of a value. -/
def natural64? : Json → Option Nat
  | .number literal => do
      let n ← Numeral.ofLiteral? literal
      if n.negative ∨ n.fraction.isSome ∨ n.exponent.isSome then none
      else if n.scaled.power = 0 then some n.scaled.digits
      else none
  | _ => none

end TernaryGossip.Json
