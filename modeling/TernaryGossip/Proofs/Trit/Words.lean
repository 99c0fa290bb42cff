import Mathlib.Data.Int.ModEq
import TernaryGossip.Proofs.Trit.Packing
import TernaryGossip.Trit.Word

/-! # Words and their digits

    The digits of a number are those of the number nearest to zero that is
    congruent to it modulo the power that they reach.  Up to 40 places carry
    no number beyond 64 bits, and neither does a step on the way when they
    are read: what was read before a step is the number of the places above,
    and three times that number is still in range.  So numbers of 64 bits
    that are small enough and balanced places correspond. -/

namespace TernaryGossip.Balanced

/-! ## Residues -/

/-- Half a power of three, the greatest number that its places carry. -/
theorem natAbs_le_half_iff (n : Nat) (v : Int) :
    v.natAbs ≤ (3 ^ n - 1) / 2 ↔ 2 * v.natAbs < 3 ^ n := by
  have hodd : 3 ^ n % 2 = 1 := by rw [Nat.pow_mod, Nat.one_pow]
  generalize 3 ^ n = power at *
  omega

/-- The value of the digits of a number is its residue nearest to zero, and
    no other number is. -/
theorem eq_value_digits_iff (n : Nat) (v w : Int) :
    w = value (digits n v) ↔ w ≡ v [ZMOD 3 ^ n] ∧ w.natAbs ≤ (3 ^ n - 1) / 2 := by
  have hcongr : w ≡ v [ZMOD 3 ^ n] ↔ digits n w = digits n v := (digits_eq_iff n w v).symm
  rw [hcongr, natAbs_le_half_iff]
  constructor
  · rintro rfl
    have hbalanced := balanced_digits n v
    have hdigits := digits_value hbalanced
    have hlt := natAbs_value_lt hbalanced
    rw [length_digits] at hdigits hlt
    exact ⟨hdigits, hlt⟩
  · rintro ⟨hdigits, hlt⟩
    rw [← hdigits, value_digits_of_lt hlt]

/-! ## Reading within 64 bits -/

theorem exists_fits? {v : Int} (h : 2 * v.natAbs < 3 ^ 40) :
    ∃ w, fits? v = some w ∧ w.toInt = v := by
  have hmin := Int64.toInt_minValue
  have hmax := Int64.toInt_maxValue
  refine ⟨Int64.ofInt v, if_pos ⟨by omega, by omega⟩, ?_⟩
  exact Int64.toInt_ofInt_of_le (by omega) (by omega)

/-- A place is read if there is still room for it: the number before it is
    tripled within the range, and so is the place added. -/
theorem exists_append? {w : Int64} {t : Int} (ht : -1 ≤ t ∧ t ≤ 1)
    (h : 2 * w.toInt.natAbs < 3 ^ 39) :
    ∃ w', append? w t = some w' ∧ w'.toInt = t + 3 * w.toInt := by
  obtain ⟨tripled, htripled, hvalue⟩ := exists_fits? (v := w.toInt * 3) (by omega)
  obtain ⟨w', hw', hadded⟩ := exists_fits? (v := tripled.toInt + t) (by omega)
  refine ⟨w', ?_, by omega⟩
  rw [append?, htripled]
  exact hw'

/-- Up to 40 balanced places are read as their number, each step in range. -/
theorem exists_word? {ts : Trits} (hbalanced : ts.Balanced) (hlen : ts.length ≤ 40) :
    ∃ w, word? ts = some w ∧ w.toInt = value ts := by
  induction ts with
  | nil => exact ⟨0, rfl, rfl⟩
  | cons t ts ih =>
    obtain ⟨ht, hts⟩ := List.forall_mem_cons.mp hbalanced
    rw [List.length_cons] at hlen
    obtain ⟨above, habove, hvalue⟩ := ih hts (by omega)
    -- the places above are at most 39
    have hpow : 3 ^ ts.length ≤ 3 ^ 39 := Nat.pow_le_pow_right (by decide) (by omega)
    have hlt := natAbs_value_lt hts
    obtain ⟨w, hw, hwvalue⟩ := exists_append? ht (w := above) (by rw [hvalue]; omega)
    refine ⟨w, ?_, by rw [hwvalue, hvalue, value_cons]⟩
    rw [word?, habove]
    exact hw

/-- A number of 64 bits is read from its digits if they carry it. -/
theorem word?_wordDigits_iff {n : Nat} (hn : n ≤ 40) (v : Int64) :
    word? (wordDigits n v) = some v ↔ v.toInt.natAbs ≤ (3 ^ n - 1) / 2 := by
  obtain ⟨w, hw, hvalue⟩ := exists_word? (balanced_digits n v.toInt) (by rwa [length_digits])
  rw [wordDigits, hw, Option.some.injEq, natAbs_le_half_iff, ← value_digits_eq_iff, ← hvalue]
  exact Int64.toInt_inj.symm

/-- The `n` digits of a number of 64 bits are balanced, and their value is
    the one number that is congruent to it modulo `3 ^ n` and at most half of
    that in magnitude.

    Up to 40 balanced places are read as their exact number without leaving
    the range of 64 bits at any step, and the digits of this number are the
    places.  A number is read from its `n` digits exactly if it is at most
    half of `3 ^ n` in magnitude. -/
theorem words_are_residues (n : Nat) :
    (∀ v : Int64, (wordDigits n v).length = n ∧ (wordDigits n v).Balanced ∧
      ∀ w : Int, w = value (wordDigits n v) ↔
        w ≡ v.toInt [ZMOD 3 ^ n] ∧ w.natAbs ≤ (3 ^ n - 1) / 2) ∧
    (n ≤ 40 →
      (∀ ts : Trits, ts.Balanced → ts.length = n →
        ∃ w, word? ts = some w ∧ w.toInt = value ts ∧ wordDigits n w = ts) ∧
      ∀ v : Int64, word? (wordDigits n v) = some v ↔ v.toInt.natAbs ≤ (3 ^ n - 1) / 2) := by
  constructor
  · intro v
    exact ⟨length_digits n _, balanced_digits n _, eq_value_digits_iff n v.toInt⟩
  · intro hn
    refine ⟨?_, word?_wordDigits_iff hn⟩
    rintro ts hbalanced rfl
    obtain ⟨w, hw, hvalue⟩ := exists_word? hbalanced hn
    exact ⟨w, hw, hvalue, by rw [wordDigits, hvalue, digits_value hbalanced]⟩

/-- Forty ones are read as half of the power, the greatest number in range;
    the least number of 64 bits does not fit into as many places. -/
theorem words_are_residues_forty :
    Trits.Balanced (List.replicate 40 1) ∧
    (∃ w, word? (List.replicate 40 1) = some w ∧ w.toInt = 6078832729528464400) ∧
    word? (wordDigits 40 Int64.minValue) ≠ some Int64.minValue ∧
    value (wordDigits 40 Int64.minValue) = 2934293422202152993 := by
  obtain ⟨hdigits, hread⟩ := words_are_residues 40
  obtain ⟨hplaces, hnumbers⟩ := hread (Nat.le_refl 40)
  have hones : Trits.Balanced (List.replicate 40 1) := fun t ht => by
    rw [List.eq_of_mem_replicate ht]
    decide
  obtain ⟨w, hw, hvalue, -⟩ := hplaces (List.replicate 40 1) hones List.length_replicate
  refine ⟨hones, ⟨w, hw, by rw [hvalue]; decide⟩, fun heq => ?_, ?_⟩
  · exact absurd ((hnumbers Int64.minValue).mp heq) (by decide)
  · exact (((hdigits Int64.minValue).2.2 _).mpr ⟨by decide, by decide⟩).symm

/-- One place more would leave the range. -/
example : word? (List.replicate 41 1) = none := by decide

end TernaryGossip.Balanced
