/-!
# Binary floating-point numbers of 64 bits

    A finite number is a significand below `2 ^ 53` times a power of two
    from `2 ^ -1074` on; what is too large becomes infinite.  Every operation
    here is defined by its exact result and one rounding of it to the nearest
    number, to the even significand when two are equally near.

    Probabilities are such numbers.  A random draw `k` below `2 ^ 53` stands
    for the fraction `k / 2 ^ 53`, and something with probability `p` happens
    when that fraction is less than `p`.
-/

namespace TernaryGossip

/-- A number of 64 bits. -/
inductive Binary64
  /-- `significand * 2 ^ exponent`, negated if `negative`. -/
  | finite (negative : Bool) (significand : Nat) (exponent : Int)
  /-- Too large in magnitude. -/
  | infinite (negative : Bool)
  /-- No number. -/
  | nan
  deriving DecidableEq, Repr

namespace Binary64

/-! ## Rounding -/

/-- The least exponent. -/
def minExponent : Int := -1074

/-- The greatest exponent. -/
def maxExponent : Int := 971

/-- The numerator and denominator of `num / den / 2 ^ e`. -/
def scale (num den : Nat) (e : Int) : Nat × Nat :=
  if 0 ≤ e then (num, den * Nat.pow 2 e.toNat) else (num * Nat.pow 2 (-e).toNat, den)

/-- The integer nearest to `num / den`, the even one of two. -/
def roundDiv (num den : Nat) : Nat :=
  let q := num / den
  let r := num % den
  if 2 * r > den ∨ (2 * r = den ∧ q % 2 = 1) then q + 1 else q

/-- The exponent at which `num / den` has a significand of 53 bits. -/
def exponentOf (num den : Nat) : Int :=
  let e : Int := (num.log2 : Int) - den.log2 - 53
  let (n, d) := scale num den e
  if Nat.pow 2 53 ≤ n / d then e + 1 else e

/-- The number nearest to `num / den`, negated if `negative`. -/
def round (negative : Bool) (num den : Nat) : Binary64 :=
  if num = 0 then .finite negative 0 minExponent
  else
    let e := max minExponent (exponentOf num den)
    let (n, d) := scale num den e
    let m := roundDiv n d
    let (m, e) := if m = Nat.pow 2 53 then (Nat.pow 2 52, e + 1) else (m, e)
    if e > maxExponent then .infinite negative else .finite negative m e

/-- The numerator and denominator of a magnitude. -/
def ratio (significand : Nat) (exponent : Int) : Nat × Nat :=
  if 0 ≤ exponent then (significand * Nat.pow 2 exponent.toNat, 1)
  else (significand, Nat.pow 2 (-exponent).toNat)

/-- The number nearest to a natural number. -/
def ofNat (n : Nat) : Binary64 := round false n 1

/-- The number nearest to `digits * 10 ^ power`.  A magnitude of more than 310
digits is infinite, and one below `10 ^ -330` is zero, whatever the digits. -/
def ofDecimal (negative : Bool) (digits : Nat) (power : Int) : Binary64 :=
  let size := (Nat.toDigits 10 digits).length + power
  if digits = 0 ∨ size < -330 then .finite negative 0 minExponent
  else if size > 310 then .infinite negative
  else if 0 ≤ power then round negative (digits * Nat.pow 10 power.toNat) 1
  else round negative digits (Nat.pow 10 (-power).toNat)

/-! ## Arithmetic with powers of ten -/

/-- The product with a power of ten that is a number itself. -/
def timesPower (x : Binary64) (n : Nat) : Binary64 :=
  match x, ofDecimal false 1 n with
  | .finite s m e, .finite _ m' e' =>
      let (a, b) := ratio m e
      let (c, d) := ratio m' e'
      round s (a * c) (b * d)
  | x, _ => x

/-- The quotient by a power of ten that is a number itself. -/
def overPower (x : Binary64) (n : Nat) : Binary64 :=
  match x, ofDecimal false 1 n with
  | .finite s m e, .finite _ m' e' =>
      let (a, b) := ratio m e
      let (c, d) := ratio m' e'
      round s (a * d) (b * c)
  | x, _ => x

/-- The number with its sign changed. -/
def neg : Binary64 → Binary64
  | .finite s m e => .finite (!s) m e
  | .infinite s => .infinite !s
  | .nan => .nan

/-! ## Comparison -/

/-- The number is zero, of either sign. -/
def isZero : Binary64 → Bool
  | .finite _ m _ => m == 0
  | _ => false

/-- The number is infinite. -/
def isInfinite : Binary64 → Bool
  | .infinite _ => true
  | _ => false

/-- The number is a probability: at least zero and at most one. -/
def isProbability : Binary64 → Bool
  | .finite s m e =>
      let (n, d) := ratio m e
      m == 0 || (!s && decide (n ≤ d))
  | _ => false

/-- The random draw `k` makes something of this probability happen. -/
def happens (p : Binary64) (k : Nat) : Bool :=
  match p with
  | .finite s m e =>
      let (n, d) := ratio m e
      !s && decide (k * d < n * Nat.pow 2 53)
  | .infinite s => !s
  | .nan => false

end Binary64

end TernaryGossip
