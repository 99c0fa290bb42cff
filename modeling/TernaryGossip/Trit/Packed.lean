import TernaryGossip.Bytes
import TernaryGossip.Trit.Error
import TernaryGossip.Trit.Balanced

/-!
# Packed trits

    Five trits fit in one byte: their values run over `-121 .. 121`, and a
    byte is read as a signed number.  A last group of fewer than five trits
    is packed as if zeros followed.

    Reading refuses bytes outside that range and otherwise fills as many
    places as it is given: bytes beyond the places are not looked at, and
    places beyond the bytes keep what they hold.  When the last group has
    fewer than five places, the high digits of its byte are not read.
-/

namespace TernaryGossip.Packed

/-- The greatest magnitude of a packed group: `(3 ^ 5 - 1) / 2`. -/
def bound : Int := 121

/-- The byte of one group. -/
def packGroup (group : Trits) : UInt8 := SignedByte.wrap (Balanced.value group)

/-- The bytes of a sequence of trits, five to a byte. -/
def pack : Trits → Bytes
  | a :: b :: c :: d :: e :: rest => packGroup [a, b, c, d, e] :: pack rest
  | [] => []
  | group => [packGroup group]

/-- A byte that some group of five trits packs to. -/
def IsGroup (b : UInt8) : Prop := -bound ≤ SignedByte.value b ∧ SignedByte.value b ≤ bound

instance (b : UInt8) : Decidable (IsGroup b) :=
  inferInstanceAs (Decidable (_ ∧ _))

/-- Every byte is a packed group. -/
def Valid (b : Bytes) : Prop := ∀ x ∈ b, IsGroup x

instance (b : Bytes) : Decidable (Valid b) := inferInstanceAs (Decidable (∀ x ∈ b, IsGroup x))

/-- Reads bytes into places; `position` is the position of the first byte. -/
def unpackFrom (position : Nat) : Bytes → Trits → Except TritError Trits
  | [], places => .ok places
  | _ :: _, [] => .ok []
  | b :: bs, places =>
      if IsGroup b then do
        let rest ← unpackFrom (position + 1) bs (places.drop 5)
        return Balanced.digits (min 5 places.length) (SignedByte.value b) ++ rest
      else
        .error (.invalidByte (SignedByte.value b) position)

/-- Reads bytes into the places given. -/
def unpackInto (places : Trits) (b : Bytes) : Except TritError Trits := unpackFrom 0 b places

/-- Reads the first `n` trits of packed bytes; missing ones are zero. -/
def unpack (n : Nat) (b : Bytes) : Except TritError Trits := unpackInto (List.replicate n 0) b

/-- The first `n` trits of packed bytes as far as they can be read; those
from the first byte on that is no group are zero. -/
def readable (n : Nat) (b : Bytes) : Trits :=
  let groups := b.takeWhile fun x => decide (IsGroup x)
  let ts := groups.flatMap fun x => Balanced.digits 5 (SignedByte.value x)
  ts.take n ++ List.replicate (n - ts.length) 0

/-! ## Length -/

theorem length_readable (n : Nat) (b : Bytes) : (readable n b).length = n := by
  simp [readable]; omega

theorem length_pack (ts : Trits) : (pack ts).length = (ts.length + 4) / 5 := by
  fun_induction pack ts with
  | case1 a b c d e rest ih => simp [ih]; omega
  | case2 => rfl
  | case3 group h₁ h₂ =>
    match group, h₁, h₂ with
    | [_], _, _ => simp
    | [_, _], _, _ => simp
    | [_, _, _], _, _ => simp
    | [_, _, _, _], _, _ => simp
    | a :: b :: c :: d :: e :: rest, h₁, _ => exact absurd rfl (h₁ a b c d e rest)

theorem length_of_unpackFrom {position : Nat} {b : Bytes} {places ts : Trits}
    (h : unpackFrom position b places = .ok ts) : ts.length = places.length := by
  induction b generalizing position places ts with
  | nil => simp [unpackFrom] at h; simp [h]
  | cons x bs ih =>
    cases places with
    | nil => simp [unpackFrom] at h; simp [← h]
    | cons p ps =>
      simp only [unpackFrom] at h
      split at h
      · cases hr : unpackFrom (position + 1) bs ((p :: ps).drop 5) with
        | error e => rw [hr] at h; simp [bind, Except.bind] at h
        | ok rest =>
          rw [hr] at h
          simp only [bind, Except.bind, pure, Except.pure, Except.ok.injEq] at h
          have := ih hr
          rw [← h, List.length_append, Balanced.length_digits, this]
          simp only [List.length_drop]
          omega
      · simp at h

theorem length_of_unpack {n : Nat} {b : Bytes} {ts : Trits} (h : unpack n b = .ok ts) :
    ts.length = n := by
  simpa using length_of_unpackFrom h

end TernaryGossip.Packed
