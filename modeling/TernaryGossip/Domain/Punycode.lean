/-!
# Punycode

    A label of a domain name that holds characters outside of ASCII is
    written with ASCII alone: first its ASCII characters and a hyphen, then
    a run of numbers that say which further characters are inserted, in
    ascending order, and where.  The numbers are written in base 36 with a
    varying threshold per digit; the threshold adapts to the numbers written
    before.
-/

namespace TernaryGossip.Domain.Punycode

/-! ## Digits -/

/-- The digit of a number below 36: letters first, then decimal digits. -/
def digit (n : Nat) : Char := if n < 26 then Char.ofNat (97 + n) else Char.ofNat (22 + n)

/-- The number of a digit of either case. -/
def digitValue? (c : Char) : Option Nat :=
  if 'a' ≤ c ∧ c ≤ 'z' then some (c.toNat - 97)
  else if 'A' ≤ c ∧ c ≤ 'Z' then some (c.toNat - 65)
  else if '0' ≤ c ∧ c ≤ '9' then some (c.toNat - 22)
  else none

/-- The least digit that is not the last of its number, at distance `k`. -/
def threshold (k bias : Nat) : Nat := max 1 (min 26 (k - bias))

theorem threshold_bounds (k bias : Nat) : 1 ≤ threshold k bias ∧ threshold k bias ≤ 26 := by
  unfold threshold; omega

/-- Divides by 35 until at most 455 is left; counts 36 for every division. -/
def damp (delta k : Nat) : Nat × Nat := if 455 < delta then damp (delta / 35) (k + 36) else (delta, k)
termination_by delta
decreasing_by omega

/-- The bias after a number. -/
def adapt (delta points : Nat) (first : Bool) : Nat :=
  let delta := if first then delta / 700 else delta / 2
  let (delta, k) := damp (delta + delta / points) 0
  k + 36 * delta / (delta + 38)

/-! ## Writing -/

/-- The digits of a number, starting at distance `k`. -/
def writeNumber (bias k q : Nat) : List Char :=
  let t := threshold k bias
  if q < t then [digit q]
  else digit (t + (q - t) % (36 - t)) :: writeNumber bias (k + 36) ((q - t) / (36 - t))
termination_by q
decreasing_by
  have := threshold_bounds k bias
  have := Nat.div_le_self (q - threshold k bias) (36 - threshold k bias)
  omega

/-- The state of writing: what was written, the running number, the bias and
the count of characters handled. -/
structure Writer where
  /-- The digits written so far. -/
  out : List Char
  /-- The number to write next. -/
  delta : Nat
  /-- The bias. -/
  bias : Nat
  /-- How many characters are handled. -/
  handled : Nat

/-- Passes one character of the label while `n` is inserted. -/
def Writer.pass (basic n : Nat) (w : Writer) (c : Char) : Writer :=
  if c.toNat < n then { w with delta := w.delta + 1 }
  else if c.toNat = n then
    { out := w.out ++ writeNumber w.bias 36 w.delta
      delta := 0
      bias := adapt w.delta (w.handled + 1) (w.handled == basic)
      handled := w.handled + 1 }
  else w

/-- Inserts the characters with the numbers `todo`, all of them at least `n`. -/
def insertAll (label : List Char) (basic : Nat) : List Nat → Nat → Writer → Writer
  | [], _, w => w
  | m :: todo, n, w =>
      let w := { w with delta := w.delta + (m - n) * (w.handled + 1) }
      let w := label.foldl (Writer.pass basic m) w
      insertAll label basic todo (m + 1) { w with delta := w.delta + 1 }

/-- Puts a number at its place; one that is there already is left out. -/
def insertSorted (n : Nat) : List Nat → List Nat
  | [] => [n]
  | m :: ms => if n < m then n :: m :: ms else if n = m then m :: ms else m :: insertSorted n ms

/-- The ASCII form of a label, without its mark. -/
def encode (label : List Char) : List Char :=
  let basic := label.filter fun c => c.toNat < 0x80
  let others := (label.filter fun c => 0x80 ≤ c.toNat).map Char.toNat
  let w := insertAll label basic.length (others.foldr insertSorted []) 0x80 ⟨[], 0, 72, basic.length⟩
  basic ++ (if basic.isEmpty then [] else ['-']) ++ w.out

/-! ## Reading -/

/-- The bound of the numbers that are read. -/
def bound : Nat := Nat.pow 2 32

/-- Reads one number: the running sum and what is left.  Neither the sum nor
the weight of a digit may reach the bound. -/
def readNumber? (bias : Nat) : List Char → Nat → Nat → Nat → Option (Nat × List Char)
  | [], _, _, _ => none
  | c :: rest, k, weight, sum => do
      let d ← digitValue? c
      let t := threshold k bias
      if bound ≤ sum + d * weight then none
      else if d < t then some (sum + d * weight, rest)
      else if bound ≤ weight * (36 - t) then none
      else readNumber? bias rest (k + 36) (weight * (36 - t)) (sum + d * weight)

/-- Inserts the characters that the digits tell of; one step per number,
of which there are at most `fuel`. -/
def readAll? : Nat → Nat → Nat → Nat → List Char → List Char → Option (List Char)
  | _, _, _, _, out, [] => some out
  | 0, _, _, _, _, _ :: _ => none
  | fuel + 1, bias, n, i, out, cs => do
      let (j, rest) ← readNumber? bias cs 36 1 i
      let points := out.length + 1
      let n := n + j / points
      if n < 0x110000 ∧ ¬(0xd800 ≤ n ∧ n ≤ 0xdfff) then
        readAll? fuel (adapt (j - i) points (i == 0)) n (j % points + 1)
          (out.take (j % points) ++ Char.ofNat n :: out.drop (j % points)) rest
      else none

/-- The label of an ASCII form without its mark.  A hyphen is only written
behind a character. -/
def decode? (cs : List Char) : Option (List Char) :=
  let tail := (cs.reverse.takeWhile (· ≠ '-')).reverse
  if tail.length + 1 = cs.length then none
  else readAll? tail.length 72 0x80 0 (cs.take (cs.length - tail.length - 1)) tail

end TernaryGossip.Domain.Punycode
