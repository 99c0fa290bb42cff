import TernaryGossip.Gossip.Wanted

/-! # The line of wanted hashes

    The members of the line under each operation.  Asking for the next hash
    turns the line around and keeps its members.  Requesting adds a hash,
    but when the line is full the front leaves it; `dropped` tells which
    hashes leave in this way. -/

namespace TernaryGossip.Wanted

/-- The same hashes are wanted, perhaps in another order. -/
structure Turned (w w' : Wanted) : Prop where
  line : w'.line.Perm w.line
  capacity : w'.capacity = w.capacity

namespace Turned

theorem refl (w : Wanted) : w.Turned w := ⟨.refl _, rfl⟩

theorem trans {w w' w'' : Wanted} (h : w.Turned w') (h' : w'.Turned w'') : w.Turned w'' :=
  ⟨h'.line.trans h.line, h'.capacity.trans h.capacity⟩

theorem next (w : Wanted) : w.Turned w.next.2 := by
  obtain ⟨line, capacity⟩ := w
  cases line with
  | nil => exact .refl _
  | cons h rest => exact ⟨List.perm_append_singleton h rest, rfl⟩

end Turned

/-- What is asked for is wanted. -/
theorem mem_of_next {w : Wanted} {h : Hash} (hnext : w.next.1 = some h) : h ∈ w.line := by
  unfold next at hnext
  split at hnext
  · cases hnext
  · next g rest hline =>
    obtain rfl : g = h := Option.some.inj hnext
    rw [hline]
    exact List.mem_cons_self

/-! ## Requesting -/

/-- The hash that leaves a full line when another one is requested. -/
def pushedOut (w : Wanted) (h : Hash) : Option Hash :=
  if h.isNull ∨ w.contains h ∨ w.line.length < w.capacity then none else (w.line ++ [h]).head?

theorem request_of_isNull (w : Wanted) {h : Hash} (hnull : h.isNull = true) :
    (w.request h).2 = w := by
  rw [request, if_pos (.inl hnull)]

theorem mem_of_mem_request {w : Wanted} {h g : Hash} (hg : g ∈ (w.request h).2.line) :
    g ∈ w.line ∨ (g = h ∧ ¬ h.isNull = true) := by
  unfold request at hg
  split at hg
  · exact .inl hg
  · next hnew =>
    have hmem : g ∈ w.line ++ [h] := by
      simp only at hg
      split at hg
      · exact List.mem_of_mem_tail hg
      · exact hg
    rcases List.mem_append.mp hmem with hg | hg
    · exact .inl hg
    · exact .inr ⟨List.mem_singleton.mp hg, fun hnull => hnew (.inl hnull)⟩

theorem mem_request {w : Wanted} {h : Hash} (hroom : w.pushedOut h = none) (g : Hash) :
    g ∈ (w.request h).2.line ↔ g ∈ w.line ∨ (g = h ∧ ¬ h.isNull = true) := by
  refine ⟨mem_of_mem_request, ?_⟩
  unfold request
  split
  · next hold =>
    rintro (hg | ⟨rfl, hnull⟩)
    · exact hg
    · rcases hold with hold | hold
      · exact absurd hold hnull
      · exact List.contains_iff_mem.mp hold
  · next hnew =>
    -- a full line would have pushed out its front
    have hfits : w.line.length < w.capacity := by
      by_cases hold : h.isNull = true ∨ w.contains h = true ∨ w.line.length < w.capacity
      · exact (or_assoc.mpr hold).resolve_left hnew
      · rw [pushedOut, if_neg hold, List.head?_eq_none_iff] at hroom
        simp at hroom
    have hle : ¬ (w.line ++ [h]).length > w.capacity := by
      simp only [List.length_append, List.length_singleton]
      omega
    simp only [if_neg hle]
    rintro (hg | ⟨rfl, _⟩)
    · exact List.mem_append_left _ hg
    · exact List.mem_append_right _ (List.mem_singleton.mpr rfl)

/-- Several hashes are requested, one after another. -/
def requestAll (w : Wanted) (hs : List Hash) : Wanted := hs.foldl (fun w h => (w.request h).2) w

@[simp] theorem requestAll_nil (w : Wanted) : w.requestAll [] = w := rfl

@[simp] theorem requestAll_cons (w : Wanted) (h : Hash) (hs : List Hash) :
    w.requestAll (h :: hs) = (w.request h).2.requestAll hs := rfl

/-- The hashes that leave a full line when several are requested. -/
def dropped (w : Wanted) : List Hash → List Hash
  | [] => []
  | h :: hs => (w.pushedOut h).toList ++ (w.request h).2.dropped hs

/-- A request makes the line one longer at most. -/
theorem length_request_le (w : Wanted) (h : Hash) :
    (w.request h).2.line.length ≤ w.line.length + 1 := by
  unfold request
  split
  · exact Nat.le_succ _
  · simp only
    split <;> simp

theorem capacity_request (w : Wanted) (h : Hash) : (w.request h).2.capacity = w.capacity := by
  unfold request
  split <;> rfl

/-- Nothing leaves a line with room for everything that is requested. -/
theorem dropped_eq_nil {w : Wanted} {hs : List Hash}
    (hroom : w.line.length + hs.length ≤ w.capacity) : w.dropped hs = [] := by
  induction hs generalizing w with
  | nil => rfl
  | cons h hs ih =>
    rw [List.length_cons] at hroom
    have hfits : w.line.length < w.capacity := by omega
    have hout : w.pushedOut h = none := by
      rw [pushedOut, if_pos (.inr (.inr hfits))]
    have hrest : (w.request h).2.dropped hs = [] := by
      apply ih
      have := w.length_request_le h
      rw [w.capacity_request h]
      omega
    rw [dropped, hout, hrest]
    rfl

theorem mem_of_mem_requestAll {w : Wanted} {hs : List Hash} {g : Hash}
    (hg : g ∈ (w.requestAll hs).line) : g ∈ w.line ∨ (g ∈ hs ∧ ¬ g.isNull = true) := by
  induction hs generalizing w with
  | nil => exact .inl hg
  | cons h hs ih =>
    rcases ih hg with hg | ⟨hmem, hnull⟩
    · rcases mem_of_mem_request hg with hg | ⟨rfl, hnull⟩
      · exact .inl hg
      · exact .inr ⟨List.mem_cons_self, hnull⟩
    · exact .inr ⟨List.mem_cons_of_mem h hmem, hnull⟩

/-- As long as nothing leaves the line, exactly the requested hashes join it. -/
theorem mem_requestAll {w : Wanted} {hs : List Hash} (hroom : w.dropped hs = []) (g : Hash) :
    g ∈ (w.requestAll hs).line ↔ g ∈ w.line ∨ (g ∈ hs ∧ ¬ g.isNull = true) := by
  refine ⟨mem_of_mem_requestAll, ?_⟩
  induction hs generalizing w with
  | nil =>
    rintro (hg | ⟨hg, _⟩)
    · exact hg
    · cases hg
  | cons h hs ih =>
    obtain ⟨hout, hrest⟩ := List.append_eq_nil_iff.mp hroom
    have hfirst := mem_request (Option.toList_eq_nil_iff.mp hout)
    rintro (hg | ⟨hg, hnull⟩)
    · exact ih hrest (.inl ((hfirst g).mpr (.inl hg)))
    · rcases List.mem_cons.mp hg with rfl | hg
      · exact ih hrest (.inl ((hfirst g).mpr (.inr ⟨rfl, hnull⟩)))
      · exact ih hrest (.inr ⟨hg, hnull⟩)

/-! ## Clearing -/

theorem mem_clear (w : Wanted) (h g : Hash) :
    g ∈ (w.clear h).2.line ↔ g ∈ w.line ∧ g ≠ h := by
  simp [clear]

end TernaryGossip.Wanted
