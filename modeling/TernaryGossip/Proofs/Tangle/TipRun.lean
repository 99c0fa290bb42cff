import Mathlib.Data.List.Dedup
import Mathlib.Data.List.Induction
import TernaryGossip.Proofs.Tangle.TipSet

/-! # Runs of the set of tips

    Tips are added, removed, marked as solid and loaded, in any order.  Each
    of the two sets holds a hash once, but a hash may be in both: this is so
    exactly if it was added, or loaded, when it was a solid tip, and was
    neither removed nor marked since.

    As long as this happens to no hash, the sets are apart, the size is the
    number of tips, and what is removed is a tip no longer.  A hash in both
    sets counts twice and stays a tip when it is removed. -/

namespace TernaryGossip.Tips

/-! ## One step -/

/-- What may happen to the tips. -/
inductive Step
  /-- A hash is added. -/
  | add (h : Hash)
  /-- A hash is removed. -/
  | remove (h : Hash)
  /-- A hash is marked as solid. -/
  | markSolid (h : Hash)
  /-- The tips are loaded from a store; they stay what they are if it fails. -/
  | load (s : Store)

/-- The tips once something happened. -/
def take (ts : Tips) : Step → Tips
  | .add h => (ts.add h).2
  | .remove h => (ts.remove h).2
  | .markSolid h => (ts.markSolid h).2
  | .load s =>
      match ts.load s with
      | .ok (_, ts) => ts
      | .error _ => ts

/-- The hashes that a step adds as tips. -/
def Step.added : Step → List Hash
  | .add h => [h]
  | .remove _ => []
  | .markSolid _ => []
  | .load s =>
      match s.unreferenced .transaction with
      | .ok keys => keys.map Hash.ofBytes
      | .error _ => []

theorem take_load (ts : Tips) (s : Store) :
    ts.take (.load s) = { ts with nonSolid := (Step.load s).added.foldl join ts.nonSolid } := by
  cases hkeys : s.unreferenced .transaction with
  | error e => simp [take, load, Step.added, hkeys, bind, Except.bind]
  | ok keys => simp [take, load, Step.added, hkeys, bind, Except.bind, pure, Except.pure]

/-- A hash is in both sets. -/
def Twice (ts : Tips) (h : Hash) : Prop := h ∈ ts.nonSolid ∧ h ∈ ts.solid

theorem apart_iff_not_twice {ts : Tips} : ts.Apart ↔ ∀ h, ¬ ts.Twice h :=
  ⟨fun hapart h htwice => hapart h htwice.1 htwice.2, fun h g hg hsolid => h g ⟨hg, hsolid⟩⟩

/-- A hash stays in both sets unless it is removed or marked, and it comes to
    be in both when it is added while it is solid. -/
theorem twice_take (ts : Tips) (e : Step) (h : Hash) :
    (ts.take e).Twice h ↔
      (ts.Twice h ∧ e ≠ .remove h ∧ e ≠ .markSolid h) ∨ (h ∈ ts.solid ∧ h ∈ e.added) := by
  cases e with
  | add g =>
    simp only [take, Tips.add, Twice, mem_join, Step.added, List.mem_singleton]
    grind
  | remove g =>
    simp only [take, Tips.remove, Twice, Step.added]
    by_cases hg : g ∈ ts.nonSolid
    · simp only [if_pos hg, mem_leave]
      grind
    · -- what is not among the one set is in both neither before nor after
      simp only [if_neg hg, mem_leave]
      grind
  | markSolid g =>
    simp only [take, Tips.markSolid, Twice, Step.added]
    by_cases hg : g ∈ ts.nonSolid
    · simp only [if_pos hg, mem_leave, mem_join]
      grind
    · simp only [if_neg hg]
      grind
  | load s =>
    simp only [take_load, Twice, mem_foldl_join]
    grind

/-! ## Each set by itself -/

theorem nodup_join {set : List Hash} (hset : set.Nodup) (h : Hash) : (join set h).Nodup := by
  unfold join
  split
  · exact hset
  · next hnew =>
    refine List.nodup_append.mpr ⟨hset, List.nodup_singleton h, ?_⟩
    rintro g hg x hx rfl
    exact hnew (List.mem_singleton.mp hx ▸ hg)

theorem nodup_foldl_join {set : List Hash} (hset : set.Nodup) (hs : List Hash) :
    (hs.foldl join set).Nodup := by
  induction hs generalizing set with
  | nil => exact hset
  | cons h hs ih => exact ih (nodup_join hset h)

theorem nodup_take {ts : Tips} (hnon : ts.nonSolid.Nodup) (hsolid : ts.solid.Nodup) (e : Step) :
    (ts.take e).nonSolid.Nodup ∧ (ts.take e).solid.Nodup := by
  cases e with
  | add h => exact ⟨nodup_join hnon h, hsolid⟩
  | remove h =>
    simp only [take, Tips.remove]
    split
    · exact ⟨hnon.filter _, hsolid⟩
    · exact ⟨hnon, hsolid.filter _⟩
  | markSolid h =>
    simp only [take, Tips.markSolid]
    split
    · exact ⟨hnon.filter _, nodup_join hsolid h⟩
    · exact ⟨hnon, hsolid⟩
  | load s =>
    rw [take_load]
    exact ⟨nodup_foldl_join hnon _, hsolid⟩

/-! ## A run -/

/-- The tips after several steps, when there were none before. -/
def run (es : List Step) : Tips := es.foldl take empty

theorem run_concat (es : List Step) (e : Step) : run (es ++ [e]) = (run es).take e :=
  List.foldl_concat _ _ _ _

theorem nodup_run (es : List Step) : (run es).nonSolid.Nodup ∧ (run es).solid.Nodup := by
  induction es using List.reverseRecOn with
  | nil => exact ⟨List.nodup_nil, List.nodup_nil⟩
  | append_singleton es e ih =>
    rw [run_concat]
    exact nodup_take ih.1 ih.2 e

/-- A hash was added when it was a solid tip, and then neither removed nor
    marked. -/
def AddedWhenSolid (es : List Step) (h : Hash) : Prop :=
  ∃ before e after, es = before ++ e :: after ∧ h ∈ (run before).solid ∧ h ∈ e.added ∧
    ∀ e' ∈ after, e' ≠ .remove h ∧ e' ≠ .markSolid h

theorem addedWhenSolid_concat (es : List Step) (e : Step) (h : Hash) :
    AddedWhenSolid (es ++ [e]) h ↔
      (AddedWhenSolid es h ∧ e ≠ .remove h ∧ e ≠ .markSolid h) ∨
        (h ∈ (run es).solid ∧ h ∈ e.added) := by
  constructor
  · rintro ⟨before, e₀, after, heq, hsolid, hadded, hafter⟩
    -- the step at which it was added is the last one, or the last one is after it
    cases after using List.reverseRecOn with
    | nil =>
      obtain ⟨rfl, he⟩ := List.append_inj' heq rfl
      cases he
      exact .inr ⟨hsolid, hadded⟩
    | append_singleton after e₁ _ =>
      rw [← List.cons_append, ← List.append_assoc] at heq
      obtain ⟨rfl, he⟩ := List.append_inj' heq rfl
      cases he
      rw [List.forall_mem_append, List.forall_mem_singleton] at hafter
      exact .inl ⟨⟨before, e₀, after, rfl, hsolid, hadded, hafter.1⟩, hafter.2⟩
  · rintro (⟨⟨before, e₀, after, rfl, hsolid, hadded, hafter⟩, he⟩ | ⟨hsolid, hadded⟩)
    · refine ⟨before, e₀, after ++ [e], by simp, hsolid, hadded, ?_⟩
      rw [List.forall_mem_append, List.forall_mem_singleton]
      exact ⟨hafter, he⟩
    · exact ⟨es, e, [], rfl, hsolid, hadded, fun _ hnil => absurd hnil List.not_mem_nil⟩

theorem twice_run_iff (es : List Step) (h : Hash) : (run es).Twice h ↔ AddedWhenSolid es h := by
  induction es using List.reverseRecOn with
  | nil =>
    constructor
    · rintro ⟨hnon, -⟩
      cases hnon
    · rintro ⟨before, e, after, heq, -⟩
      simp at heq
  | append_singleton es e ih => rw [run_concat, twice_take, addedWhenSolid_concat, ih]

/-! ## What is counted and removed -/

theorem nodup_toList_iff {ts : Tips} (hnon : ts.nonSolid.Nodup) (hsolid : ts.solid.Nodup) :
    ts.toList.Nodup ↔ ts.Apart := by
  rw [toList, List.nodup_append]
  constructor
  · rintro ⟨-, -, hdisjoint⟩ h hh hs
    exact hdisjoint h hh h hs rfl
  · intro hapart
    refine ⟨hnon, hsolid, ?_⟩
    rintro h hh g hg rfl
    exact hapart h hh hg

/-- The size is the number of different tips if no tip is listed twice. -/
theorem size_eq_dedup_iff (ts : Tips) : ts.size = ts.toList.dedup.length ↔ ts.toList.Nodup := by
  have hsize : ts.size = ts.toList.length := (List.length_append).symm
  rw [hsize]
  constructor
  · intro hlen
    exact List.dedup_eq_self.mp ((List.dedup_sublist _).eq_of_length hlen.symm)
  · intro hnodup
    rw [List.dedup_eq_self.mpr hnodup]

theorem contains_iff {ts : Tips} {h : Hash} : ts.contains h = true ↔ h ∈ ts.toList := by
  simp [contains, mem_toList]

/-- Only a hash in both sets is a tip still once it is removed. -/
theorem mem_remove_self_iff (ts : Tips) (h : Hash) : h ∈ (ts.remove h).2.toList ↔ ts.Twice h := by
  unfold remove
  split
  · next hnon => simp [mem_toList, Twice, hnon]
  · next hnon => simp [mem_toList, Twice, hnon]

/-- In every run from no tips, each set holds a hash once, and the hashes in
    both sets are those that were added when they were solid tips and neither
    removed nor marked since.  They are also those that stay tips when they
    are removed.  All tips are listed once, and the size is their number, if
    and only if there is no such hash. -/
theorem apart_unless_added_when_solid (es : List Step) :
    (run es).nonSolid.Nodup ∧ (run es).solid.Nodup ∧
      (∀ h, h ∈ (run es).nonSolid ∧ h ∈ (run es).solid ↔ AddedWhenSolid es h) ∧
      (∀ h, ((run es).remove h).2.contains h = true ↔ AddedWhenSolid es h) ∧
      ((run es).toList.Nodup ↔ ∀ h, ¬ AddedWhenSolid es h) ∧
      ((run es).size = (run es).toList.dedup.length ↔ ∀ h, ¬ AddedWhenSolid es h) := by
  obtain ⟨hnon, hsolid⟩ := nodup_run es
  have hapart : (run es).toList.Nodup ↔ ∀ h, ¬ AddedWhenSolid es h := by
    rw [nodup_toList_iff hnon hsolid, apart_iff_not_twice]
    exact forall_congr' fun h => not_congr (twice_run_iff es h)
  refine ⟨hnon, hsolid, twice_run_iff es, fun h => ?_, hapart, ?_⟩
  · rw [contains_iff, mem_remove_self_iff]
    exact twice_run_iff es h
  · rw [size_eq_dedup_iff]
    exact hapart

/-- A tip that is added again once it is solid is in both sets, counts twice,
    and is a tip after it is removed. -/
theorem not_apart_added_again :
    let ts := run [.add Hash.null, .markSolid Hash.null, .add Hash.null]
    ¬ ts.Apart ∧ ts.toList = [Hash.null, Hash.null] ∧ ts.size = 2 ∧
      ts.toList.dedup.length = 1 ∧
      (run [.add Hash.null, .markSolid Hash.null, .add Hash.null, .remove Hash.null]).contains
        Hash.null = true := by
  have hlist :
      (run [.add Hash.null, .markSolid Hash.null, .add Hash.null]).toList =
        [Hash.null, Hash.null] := by decide
  refine ⟨?_, hlist, by decide, ?_, by decide⟩
  · intro hapart
    exact hapart Hash.null (by decide) (by decide)
  · rw [hlist]
    decide

end TernaryGossip.Tips
