/-!
# Balanced ternary numbers

    A trit is `-1`, `0` or `1`.  Numbers are written with the least
    significant trit first, so a list `t₀ t₁ t₂ …` stands for
    `t₀ + 3 t₁ + 9 t₂ + …`.

    Buffers of trits come from callers and may hold any small number, so a
    list of integers is the carrier and `Balanced` says that every entry is
    a trit.  `value` is the exact number; `digits n v` fills `n` places with
    the digits of `v` and drops what does not fit, which is arithmetic
    modulo `3 ^ n` (`value_digits`), and of the balanced lists of length
    `n` no other has that value (`digits_value`).
-/

namespace TernaryGossip

/-- A sequence of trit places, least significant first. -/
abbrev Trits := List Int

/-- Every place holds `-1`, `0` or `1`. -/
def Trits.Balanced (ts : Trits) : Prop := ∀ t ∈ ts, -1 ≤ t ∧ t ≤ 1

instance (ts : Trits) : Decidable ts.Balanced :=
  inferInstanceAs (Decidable (∀ t ∈ ts, -1 ≤ t ∧ t ≤ 1))

namespace Balanced

/-! ## Value -/

/-- The number that a sequence of places stands for. -/
def value : Trits → Int
  | [] => 0
  | t :: ts => t + 3 * value ts

@[simp] theorem value_nil : value [] = 0 := rfl

@[simp] theorem value_cons (t : Int) (ts : Trits) : value (t :: ts) = t + 3 * value ts := rfl

/-! ## Digits -/

/-- The trit congruent to `v` modulo three. -/
def digit (v : Int) : Int := if v % 3 = 2 then -1 else v % 3

/-- What is left of `v` once its last digit is removed. -/
def shift (v : Int) : Int := (v - digit v) / 3

/-- The last `n` digits of `v`. -/
def digits : Nat → Int → Trits
  | 0, _ => []
  | n + 1, v => digit v :: digits n (shift v)

theorem digit_bounds (v : Int) : -1 ≤ digit v ∧ digit v ≤ 1 := by
  unfold digit; split <;> omega

theorem digit_add_shift (v : Int) : digit v + 3 * shift v = v := by
  unfold shift digit; split <;> omega

theorem digit_cons {t : Int} (h : -1 ≤ t ∧ t ≤ 1) (v : Int) : digit (t + 3 * v) = t := by
  unfold digit; split <;> omega

theorem shift_cons {t : Int} (h : -1 ≤ t ∧ t ≤ 1) (v : Int) : shift (t + 3 * v) = v := by
  unfold shift; rw [digit_cons h]; omega

@[simp] theorem length_digits (n : Nat) (v : Int) : (digits n v).length = n := by
  induction n generalizing v with
  | zero => rfl
  | succ n ih => simp [digits, ih]

theorem balanced_digits (n : Nat) (v : Int) : (digits n v).Balanced := by
  induction n generalizing v with
  | zero => simp [digits, Trits.Balanced]
  | succ n ih =>
    intro t ht
    rcases List.mem_cons.mp ht with rfl | h
    · exact digit_bounds v
    · exact ih _ t h

/-- Reading the digits of the value of balanced places gives the places back. -/
theorem digits_value {ts : Trits} (h : ts.Balanced) : digits ts.length (value ts) = ts := by
  induction ts with
  | nil => rfl
  | cons t ts ih =>
    have ht := h t (by simp)
    have hts : Trits.Balanced ts := fun x hx => h x (by simp [hx])
    simp [digits, digit_cons ht, shift_cons ht, ih hts]

/-- Dropping the high digits changes a number by a multiple of `3 ^ n`. -/
theorem value_digits (n : Nat) (v : Int) : ∃ k : Int, v = value (digits n v) + Int.pow 3 n * k := by
  induction n generalizing v with
  | zero => exact ⟨v, by simp [digits, Int.pow]⟩
  | succ n ih =>
    obtain ⟨k, hk⟩ := ih (shift v)
    have hd := digit_add_shift v
    refine ⟨k, ?_⟩
    simp only [digits, value_cons]
    have hp : Int.pow 3 (n + 1) * k = 3 * (Int.pow 3 n * k) := by
      show Int.pow 3 n * 3 * k = 3 * (Int.pow 3 n * k)
      rw [Int.mul_comm (Int.pow 3 n) 3, Int.mul_assoc]
    omega

end Balanced

end TernaryGossip
