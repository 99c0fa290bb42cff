import TernaryGossip.Trit.Balanced

/-!
# Trits as signs

    People write trits as signs: `-` for `-1`, `0` for `0` and `+` for `1`,
    the least significant in front.
-/

namespace TernaryGossip.Trits

/-- The sign of a trit. -/
def sign (t : Int) : Char := if t < 0 then '-' else if t = 0 then '0' else '+'

/-- The trit of a sign. -/
def ofSign? (c : Char) : Option Int :=
  match c with
  | '-' => some (-1)
  | '0' => some 0
  | '+' => some 1
  | _ => none

/-- Trits as signs. -/
def signs (ts : Trits) : String := String.ofList (ts.map sign)

/-- The trits of a text of signs. -/
def ofSigns? (s : String) : Option Trits := s.toList.mapM ofSign?

@[simp] theorem ofSign?_sign {t : Int} (h : -1 ≤ t ∧ t ≤ 1) : ofSign? (sign t) = some t := by
  rcases (show t = -1 ∨ t = 0 ∨ t = 1 by omega) with rfl | rfl | rfl <;> rfl

theorem ofSigns?_signs {ts : Trits} (h : ts.Balanced) : ofSigns? ts.signs = some ts := by
  rw [ofSigns?, signs, String.toList_ofList]
  induction ts with
  | nil => rfl
  | cons t ts ih =>
    have ht := ofSign?_sign (h t List.mem_cons_self)
    have hts := ih fun x hx => h x (List.mem_cons_of_mem t hx)
    simp [List.mapM_cons, ht, hts]

end TernaryGossip.Trits
