import TernaryGossip.Proofs.OrderedMap

/-! # The foremost of some kind

    A search that goes along a list and stops at the first member of some
    kind finds the one that no other comes before, if the list is in order,
    and finds nothing only if there is none.

    The four questions for one entry of an ordered map are such searches:
    for the first and the last entry, and for the neighbours of a key above
    and below.  So each of them is answered with the least or the greatest
    entry of its kind. -/

namespace TernaryGossip

/-- Of those of some kind the one that none of them comes before; nothing if
    there are none. -/
def Foremost {α : Type} (before : α → α → Prop) (kind : α → Prop) : Option α → Prop
  | none => ∀ a, ¬ kind a
  | some a => kind a ∧ ∀ b, kind b → ¬ before b a

namespace Foremost

variable {α : Type} {before : α → α → Prop} {kind : α → Prop} {answer : Option α}

theorem eq_none (h : Foremost before kind answer) (hnone : ∀ a, ¬ kind a) : answer = none := by
  cases answer with
  | none => rfl
  | some a => exact absurd h.1 (hnone a)

/-- The only one of its kind is the foremost. -/
theorem eq_some (h : Foremost before kind answer) {a : α} (ha : kind a)
    (honly : ∀ b, kind b → b = a) : answer = some a := by
  cases answer with
  | none => exact absurd ha (h a)
  | some b => rw [honly b h.1]

end Foremost

/-! ## Lists in order -/

section lists
variable {α : Type} {before : α → α → Prop}

theorem foremost_find? {xs : List α} (hxs : xs.Pairwise before) (hirrefl : ∀ a, ¬ before a a)
    (hasymm : ∀ a b, before a b → ¬ before b a) (p : α → Bool) :
    Foremost before (fun a => a ∈ xs ∧ p a = true) (xs.find? p) := by
  cases hfind : xs.find? p with
  | none => exact fun a ⟨hmem, hp⟩ => List.find?_eq_none.mp hfind a hmem hp
  | some a =>
    obtain ⟨hp, front, back, rfl, hfront⟩ := List.find?_eq_some_iff_append.mp hfind
    obtain ⟨-, hback, -⟩ := List.pairwise_append.mp hxs
    refine ⟨⟨by simp, hp⟩, ?_⟩
    rintro b ⟨hmem, hpb⟩
    rcases List.mem_append.mp hmem with hin | hin
    · -- none in front is of the kind
      have hnot := hfront b hin
      rw [hpb] at hnot
      cases hnot
    · rcases List.mem_cons.mp hin with rfl | hin
      · exact hirrefl b
      · exact hasymm a b ((List.pairwise_cons.mp hback).1 b hin)

end lists

/-! ## Ordered maps -/

namespace OrderedMap

variable {κ ν : Type} [Ord κ]

/-- The entry of some kind with the least key. -/
def Least (m : OrderedMap κ ν) (kind : κ → Prop) : Option (κ × ν) → Prop :=
  Foremost (fun a b => compare a.1 b.1 = .lt) fun e => m.get? e.1 = some e.2 ∧ kind e.1

/-- The entry of some kind with the greatest key. -/
def Greatest (m : OrderedMap κ ν) (kind : κ → Prop) : Option (κ × ν) → Prop :=
  Foremost (fun a b => compare b.1 a.1 = .lt) fun e => m.get? e.1 = some e.2 ∧ kind e.1

variable [Std.LawfulEqOrd κ] [Std.TransOrd κ] (m : OrderedMap κ ν)

theorem least_find? (p : κ → Bool) :
    m.Least (p · = true) (m.entries.find? fun e => p e.1) := by
  have hirrefl : ∀ a : κ × ν, ¬ compare a.1 a.1 = .lt := by simp
  have hasymm : ∀ a b : κ × ν, compare a.1 b.1 = .lt → ¬ compare b.1 a.1 = .lt :=
    fun a b => Std.OrientedCmp.not_lt_of_lt
  have hfound := foremost_find? m.sorted hirrefl hasymm fun e => p e.1
  simpa only [Least, ← mem_entries_iff] using hfound

theorem greatest_find? (p : κ → Bool) :
    m.Greatest (p · = true) (m.entries.reverse.find? fun e => p e.1) := by
  have hirrefl : ∀ a : κ × ν, ¬ compare a.1 a.1 = .lt := by simp
  have hasymm : ∀ a b : κ × ν, compare b.1 a.1 = .lt → ¬ compare a.1 b.1 = .lt :=
    fun a b => Std.OrientedCmp.not_lt_of_lt
  have hfound := foremost_find? (List.pairwise_reverse.mpr m.sorted) hirrefl hasymm fun e => p e.1
  simpa only [Greatest, List.mem_reverse, ← mem_entries_iff] using hfound

theorem least_first? : m.Least (fun _ => True) m.first? := by
  have hfound := m.least_find? fun _ => true
  rw [← List.head?_filter, List.filter_true] at hfound
  simp only [eq_self] at hfound
  exact hfound

theorem greatest_last? : m.Greatest (fun _ => True) m.last? := by
  have hfound := m.greatest_find? fun _ => true
  rw [← List.getLast?_filter, List.filter_true] at hfound
  simp only [eq_self] at hfound
  exact hfound

theorem least_next? (k : κ) : m.Least (compare k · = .lt) (m.next? k) := by
  have hfound := m.least_find? fun j => compare k j == .lt
  simp only [beq_iff_eq] at hfound
  exact hfound

theorem greatest_previous? (k : κ) : m.Greatest (compare · k = .lt) (m.previous? k) := by
  have hfound := m.greatest_find? fun j => compare j k == .lt
  rw [← previous?_eq_find?] at hfound
  simpa only [beq_iff_eq] using hfound

end OrderedMap

end TernaryGossip
