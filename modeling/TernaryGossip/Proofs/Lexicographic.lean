import TernaryGossip.Bytes

/-! # Lists in order

    Lists are compared from the front, entry by entry.  Of lists with equally
    long fronts the fronts are compared first, and what stands behind is
    looked at only if these are the same. -/

namespace TernaryGossip

variable {α : Type}

/-- Of equally long lists the fronts are compared first. -/
theorem compare_append [Ord α] {a b : List α} (hlen : a.length = b.length) (c d : List α) :
    compare (a ++ c) (b ++ d) = (compare a b).then (compare c d) := by
  induction a generalizing b with
  | nil =>
    rw [List.length_eq_zero_iff.mp hlen.symm]
    rfl
  | cons x a ih =>
    cases b with
    | nil => cases hlen
    | cons y b =>
      rw [List.cons_append, List.cons_append, List.compare_cons_cons, List.compare_cons_cons,
        ih (Nat.succ.inj hlen), Ordering.then_assoc]

/-- A common front does not matter. -/
theorem compare_append_left [Ord α] [Std.ReflOrd α] (a b c : List α) :
    compare (a ++ b) (a ++ c) = compare b c := by
  rw [compare_append rfl, Std.ReflOrd.compare_self, Ordering.eq_then]

/-- Two equally long lists that are not the same differ for the last time
    somewhere. -/
theorem exists_last_difference {l m : List α} (hlen : l.length = m.length) (hne : l ≠ m) :
    ∃ x y front front' back, x ≠ y ∧ l = front ++ x :: back ∧ m = front' ++ y :: back := by
  induction l generalizing m with
  | nil => exact absurd (List.length_eq_zero_iff.mp hlen.symm).symm hne
  | cons a l ih =>
    cases m with
    | nil => cases hlen
    | cons b m =>
      by_cases hrest : l = m
      · refine ⟨a, b, [], [], m, fun hab => hne ?_, by rw [hrest]; rfl, rfl⟩
        rw [hab, hrest]
      · obtain ⟨x, y, front, front', back, hxy, rfl, rfl⟩ := ih (Nat.succ.inj hlen) hrest
        exact ⟨x, y, a :: front, b :: front', back, hxy, rfl, rfl⟩

end TernaryGossip
