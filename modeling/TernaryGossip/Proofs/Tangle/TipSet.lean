import TernaryGossip.Proofs.Gossip.FirstStore
import TernaryGossip.Proofs.Tangle.Written

/-! # The set of tips

    The solid tips and the others are apart: removing a tip takes it from
    one of the two sets only, so a hash in both would stay a tip.  They stay
    apart as long as no solid tip is added again.

    Loading finds the frontier of what is stored.  A first store brings the
    tips from the old frontier to the new one. -/

namespace TernaryGossip.Tips

/-- No solid tip is among those that are not. -/
def Apart (ts : Tips) : Prop := ∀ h ∈ ts.nonSolid, h ∉ ts.solid

theorem mem_toList {ts : Tips} {h : Hash} : h ∈ ts.toList ↔ h ∈ ts.nonSolid ∨ h ∈ ts.solid :=
  List.mem_append

@[simp] theorem mem_join {set : List Hash} {h g : Hash} : g ∈ join set h ↔ g ∈ set ∨ g = h := by
  unfold join
  split
  · next hmem =>
    constructor
    · exact .inl
    · rintro (hg | rfl)
      · exact hg
      · exact hmem
  · rw [List.mem_append, List.mem_singleton]

@[simp] theorem mem_leave {set : List Hash} {h g : Hash} :
    g ∈ leave set h ↔ g ∈ set ∧ g ≠ h := by
  simp [leave]

/-! ## Adding and marking -/

theorem mem_add {ts : Tips} {h g : Hash} : g ∈ (ts.add h).2.toList ↔ g ∈ ts.toList ∨ g = h := by
  simp only [add, mem_toList, mem_join]
  exact or_right_comm

theorem Apart.add {ts : Tips} (hapart : ts.Apart) {h : Hash} (hsolid : h ∉ ts.solid) :
    (ts.add h).2.Apart := by
  intro g hg
  rcases mem_join.mp hg with hg | rfl
  · exact hapart g hg
  · exact hsolid

/-- Marking moves a tip and leaves the tips what they are. -/
theorem mem_markSolid {ts : Tips} {h g : Hash} :
    g ∈ (ts.markSolid h).2.toList ↔ g ∈ ts.toList := by
  unfold markSolid
  split
  · next hmem =>
    simp only [mem_toList, mem_leave, mem_join]
    by_cases hg : g = h
    · subst hg
      simp [hmem]
    · simp [hg]
  · rfl

theorem Apart.markSolid {ts : Tips} (hapart : ts.Apart) (h : Hash) : (ts.markSolid h).2.Apart := by
  unfold Tips.markSolid
  split
  · intro g hg hsolid
    obtain ⟨hg, hne⟩ := mem_leave.mp hg
    rcases mem_join.mp hsolid with hsolid | rfl
    · exact hapart g hg hsolid
    · exact hne rfl
  · exact hapart

/-! ## Removing -/

theorem mem_remove {ts : Tips} (hapart : ts.Apart) {h g : Hash} :
    g ∈ (ts.remove h).2.toList ↔ g ∈ ts.toList ∧ g ≠ h := by
  unfold remove
  split
  · next hmem =>
    -- what is not solid has no second place among the solid ones
    have hsolid : g ∈ ts.solid → g ≠ h := by
      rintro hg rfl
      exact hapart g hmem hg
    simp only [mem_toList, mem_leave]
    grind
  · next hmem =>
    -- nor are there two places if it is not among the others
    have hnon : g ∈ ts.nonSolid → g ≠ h := by
      rintro hg rfl
      exact hmem hg
    simp only [mem_toList, mem_leave]
    grind

theorem Apart.remove {ts : Tips} (hapart : ts.Apart) (h : Hash) : (ts.remove h).2.Apart := by
  unfold Tips.remove
  split
  · intro g hg
    exact hapart g (mem_leave.mp hg).1
  · intro g hg hsolid
    exact hapart g hg (mem_leave.mp hsolid).1

theorem Apart.removeAll {ts : Tips} (hapart : ts.Apart) (hs : List Hash) :
    (ts.removeAll hs).Apart := by
  induction hs generalizing ts with
  | nil => exact hapart
  | cons h hs ih => exact ih (hapart.remove h)

theorem mem_removeAll {ts : Tips} (hapart : ts.Apart) {hs : List Hash} {g : Hash} :
    g ∈ (ts.removeAll hs).toList ↔ g ∈ ts.toList ∧ g ∉ hs := by
  induction hs generalizing ts with
  | nil => simp [removeAll]
  | cons h hs ih =>
    have hcons : ts.removeAll (h :: hs) = (ts.remove h).2.removeAll hs := rfl
    rw [hcons, ih (hapart.remove h), mem_remove hapart, List.mem_cons, not_or, and_assoc]

/-! ## Loading -/

theorem mem_foldl_join {set hs : List Hash} {g : Hash} :
    g ∈ hs.foldl join set ↔ g ∈ set ∨ g ∈ hs := by
  induction hs generalizing set with
  | nil => simp
  | cons h hs ih => rw [List.foldl_cons, ih, mem_join, List.mem_cons, or_assoc]

section keeps
variable {s : Store} {T : Tables} (hkeeps : s.Keeps T)
include hkeeps

theorem load_eq (ts : Tips) :
    ts.load s =
      let nonSolid :=
        ((Provider.unreferencedKeys T .transaction).map Hash.ofBytes).foldl join ts.nonSolid
      .ok (nonSolid.length - ts.nonSolid.length, { ts with nonSolid }) := by
  rw [load, hkeeps.unreferenced]
  rfl

/-- A fresh set of tips loads exactly the frontier. -/
theorem load_empty {ts : List Transaction} (hwritten : T.Written ts) :
    ∃ k tips, empty.load s = .ok (k, tips) ∧ tips.Apart ∧
      ∀ h, h ∈ tips.toList ↔ Frontier ts h := by
  refine ⟨_, _, load_eq hkeeps empty, fun h _ => List.not_mem_nil, fun h => ?_⟩
  rw [mem_toList, mem_foldl_join, List.mem_map]
  constructor
  · rintro ((hh | ⟨key, hkey, rfl⟩) | hh)
    · cases hh
    · obtain ⟨g, rfl, hg⟩ := (hwritten.mem_unreferencedKeys key).mp hkey
      rw [Key.ofHash, Hash.ofBytes_bytes]
      exact hg
    · cases hh
  · intro hfrontier
    exact .inl (.inr ⟨Key.ofHash h, (hwritten.mem_unreferencedKeys _).mpr ⟨h, rfl, hfrontier⟩,
      Hash.ofBytes_bytes h⟩)

end keeps

/-! ## A first store -/

section withStored
variable {ts : Tips} {T T' : Tables} {stored : List Transaction} {t : Transaction}
variable (hwritten : T.Written stored) (hnew : ¬ T.Stored t.hash)
variable (hfrontier : ∀ h, h ∈ ts.toList ↔ Frontier stored h)
include hwritten hnew hfrontier

/-- A new transaction is no tip yet. -/
theorem not_mem_of_new : t.hash ∉ ts.toList := by
  intro hmem
  obtain ⟨hs, _⟩ := (hfrontier t.hash).mp hmem
  exact hnew ((hwritten.stored_iff t.hash).mpr hs)

theorem Apart.withStored (hapart : ts.Apart) : (ts.withStored T' t).Apart := by
  have hsolid : t.hash ∉ ts.solid := fun hmem =>
    not_mem_of_new hwritten hnew hfrontier (mem_toList.mpr (.inr hmem))
  unfold Tips.withStored
  simp only
  split
  · exact (hapart.add hsolid).removeAll _
  · exact hapart.removeAll _

/-- The tips after a first store are the new frontier. -/
theorem mem_withStored (hapart : ts.Apart) (hwritten' : T'.Written (stored ++ [t])) (h : Hash) :
    h ∈ (ts.withStored T' t).toList ↔ Frontier (stored ++ [t]) h := by
  have hsolid : t.hash ∉ ts.solid := fun hmem =>
    not_mem_of_new hwritten hnew hfrontier (mem_toList.mpr (.inr hmem))
  have hparents : h ∉ [t.trunk, t.branch] ↔ t.trunk ≠ h ∧ t.branch ≠ h := by
    simp [eq_comm]
  -- the transaction itself is in the new frontier if nothing approves it
  have hfree := hwritten'.referrers_eq_nil t.hash
  rw [List.forall_mem_append, List.forall_mem_singleton] at hfree
  unfold withStored
  simp only
  split
  · next hnone =>
    obtain ⟨hothers, _⟩ := hfree.mp (List.isEmpty_iff.mp hnone)
    rw [mem_removeAll (hapart.add hsolid), mem_add, hfrontier, hparents, frontier_concat]
    constructor
    · rintro ⟨⟨hold, hrest⟩ | rfl, hself⟩
      · exact ⟨.inl hold, hrest, hself⟩
      · exact ⟨.inr rfl, hothers, hself⟩
    · rintro ⟨hold | rfl, hrest, hself⟩
      · exact ⟨.inl ⟨hold, hrest⟩, hself⟩
      · exact ⟨.inr rfl, hself⟩
  · next hsome =>
    -- something stored before approves it, a child that came first
    rw [mem_removeAll hapart, hfrontier, hparents, frontier_concat]
    constructor
    · rintro ⟨⟨hold, hrest⟩, hself⟩
      exact ⟨.inl hold, hrest, hself⟩
    · rintro ⟨hold | rfl, hrest, hself⟩
      · exact ⟨⟨hold, hrest⟩, hself⟩
      · exact absurd (List.isEmpty_iff.mpr (hfree.mpr ⟨hrest, hself⟩)) hsome

end withStored

end TernaryGossip.Tips
