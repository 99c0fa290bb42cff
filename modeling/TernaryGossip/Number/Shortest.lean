import TernaryGossip.Number.Binary64

/-!
# The shortest decimal form of a binary number

    Of the decimal numbers that read back as a given binary number, the one
    with the fewest digits is its text, and of several with that many digits
    the nearest.  A decimal number reads back if it lies between the halves
    of the way to the two neighbours, these halves included when the
    significand is even.

    For each count of digits only two candidates can be nearest: the
    neighbours of the value on the grid of numbers with that many digits.
-/

namespace TernaryGossip.Shortest

/-- `digits * 10 ^ power`. -/
structure Decimal where
  /-- The digits, as a number. -/
  digits : Nat
  /-- The power of ten of the last digit. -/
  power : Int
  deriving DecidableEq, Repr

/-- The interval of numbers that read back, in quarters of the last place of
the significand: its two ends, and whether they belong to it. -/
structure Interval where
  /-- Four times the value. -/
  middle : Nat
  /-- Four times the lower end. -/
  low : Nat
  /-- Four times the upper end. -/
  high : Nat
  /-- The ends belong to the interval. -/
  closed : Bool

/-- The interval around a significand.  Below a power of two the neighbours
are half as far away. -/
def interval (m : Nat) (e : Int) : Interval :=
  { middle := 4 * m
    low := if m = Nat.pow 2 52 ∧ e > Binary64.minExponent then 4 * m - 1 else 4 * m - 2
    high := 4 * m + 2
    closed := m % 2 == 0 }

/-- The numerator and denominator of `10 ^ power / 2 ^ (e - 2)`: a unit of the
decimal grid, in quarters of the last place. -/
def gridUnit (e power : Int) : Nat × Nat :=
  let (n, d) := if 0 ≤ power then (Nat.pow 10 power.toNat, 1) else (1, Nat.pow 10 (-power).toNat)
  Binary64.scale n d (e - 2)

/-- `c` units of `n / d` lie in the interval. -/
def inside (i : Interval) (n d c : Nat) : Bool :=
  if i.closed then i.low * d ≤ c * n && c * n ≤ i.high * d
  else i.low * d < c * n && c * n < i.high * d

/-- The nearer of two neighbouring grid points that lie in the interval. -/
def candidate? (i : Interval) (e power : Int) : Option Nat :=
  let (n, d) := gridUnit e power
  let c := i.middle * d / n
  let below := inside i n d c
  let above := inside i n d (c + 1)
  if below && above then
    let r := i.middle * d % n
    if 2 * r > n ∨ (2 * r = n ∧ c % 2 = 1) then some (c + 1) else some c
  else if below then some c
  else if above then some (c + 1)
  else none

/-- The least `t` with `value < 10 ^ t`, searched around an estimate. -/
def magnitude (m : Nat) (e : Int) : Int :=
  let estimate : Int := ((m.log2 : Int) + e) * 30103 / 100000
  let below (t : Int) : Bool :=
    let (n, d) := gridUnit e t
    4 * m * d < n
  ([estimate - 1, estimate, estimate + 1].find? below).getD (estimate + 2)

/-- Removes zeros at the end of the digits; at most `fuel` of them. -/
def strip : Nat → Decimal → Decimal
  | 0, x => x
  | fuel + 1, x =>
      if x.digits % 10 = 0 ∧ x.digits ≠ 0 then strip fuel ⟨x.digits / 10, x.power + 1⟩ else x

/-- The first candidate, with `count` digits or more. -/
def search (i : Interval) (e top : Int) : Nat → Nat → Decimal
  | 0, _ => ⟨0, 0⟩
  | fuel + 1, count =>
      match candidate? i e (top - count) with
      | some c => if c = 0 then search i e top fuel (count + 1) else strip 20 ⟨c, top - count⟩
      | none => search i e top fuel (count + 1)

/-- The shortest decimal of a finite magnitude; the digits do not end in zero. -/
def ofFinite (m : Nat) (e : Int) : Decimal :=
  if m = 0 then ⟨0, 0⟩ else search (interval m e) e (magnitude m e) 18 1

/-! ## Text -/

/-- The digits of a decimal, and the position of the point after the first
of them. -/
def digitsAndPoint (x : Decimal) : List Char × Int :=
  let ds := Nat.toDigits 10 x.digits
  (ds, (ds.length : Int) + x.power)

/-- Positional text without a needless point. -/
def positional (x : Decimal) : String :=
  let (ds, point) := digitsAndPoint x
  if x.digits = 0 then "0"
  else if point ≤ 0 then String.ofList ("0.".toList ++ List.replicate (-point).toNat '0' ++ ds)
  else if ds.length ≤ point.toNat then
    String.ofList (ds ++ List.replicate (point.toNat - ds.length) '0')
  else String.ofList (ds.take point.toNat ++ '.' :: ds.drop point.toNat)

end Shortest

namespace Binary64

/-- The text of a number in messages: positional, however long. -/
def text : Binary64 → String
  | .finite s m e => (if s then "-" else "") ++ Shortest.positional (Shortest.ofFinite m e)
  | .infinite s => if s then "-inf" else "inf"
  | .nan => "NaN"

/-- The text of a number in structured text: positional from `1e-5` up to
`1e16`, and then with a point; with a signed exponent outside of these
bounds.  What is not finite has no such text and is written as `null`. -/
def jsonText : Binary64 → String
  | .finite s m e =>
      let x := Shortest.ofFinite m e
      let (ds, point) := Shortest.digitsAndPoint x
      let body :=
        if x.digits = 0 then "0.0"
        else if -5 < point ∧ point ≤ 16 then
          let plain := Shortest.positional x
          if plain.contains '.' then plain else plain ++ ".0"
        else
          String.ofList (ds.take 1 ++ (if ds.length > 1 then '.' :: ds.drop 1 else [])) ++
            (if 1 ≤ point then "e+" else "e") ++ toString (point - 1)
      (if s then "-" else "") ++ body
  | .infinite _ => "null"
  | .nan => "null"

end Binary64

end TernaryGossip
