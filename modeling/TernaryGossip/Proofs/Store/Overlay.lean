import TernaryGossip.Proofs.Store.Changes

/-! # Layers as one map

    For look-ups of single records, a store of fault-free providers is one
    map, whatever its providers held at first.  A key that no change has
    touched is found as the first provider that had it has it; any other is
    found as the last change of it left it.

    A change is made by every provider, so it hides what any of them held:
    a removed record does not come back from a later layer, and a written
    one is found in the first. -/

namespace TernaryGossip

namespace Store

/-- The record that a look-up finds: that of the first provider with one. -/
def held (s : Store) (part : Partition) (key : Bytes) : Option Bytes :=
  s.providers.findSome? fun p => (p.tables.table part).get? key

/-- Some provider has a record exactly if the first one with a record does. -/
theorem any_contains (s : Store) (part : Partition) (key : Bytes) :
    (s.providers.any fun p => (p.tables.table part).contains key) = (s.held part key).isSome := by
  rw [Bool.eq_iff_iff, List.any_eq_true, held, List.findSome?_isSome_iff]
  rfl

/-- An edit that all layers make is found in the first; without one, the
    first layer that had the record has it. -/
theorem findSome?_final {α : Type} {ps : List α} (hsome : ps ≠ []) (es : List Edit)
    (part : Partition) (key : Bytes) (before : α → Option Bytes) :
    (ps.findSome? fun p => Edit.final es part key (before p)) =
      Edit.final es part key (ps.findSome? before) := by
  unfold Edit.final
  cases Edit.last? es part key with
  | none => rfl
  | some e =>
    obtain ⟨p, ps, rfl⟩ := List.exists_cons_of_ne_nil hsome
    cases hvalue : e.value with
    | none => simp [hvalue]
    | some value => simp [hvalue]

namespace FaultFree

variable {s : Store} (h : s.FaultFree)
include h

theorem held_changeAll (cs : List Change) (part : Partition) (key : Bytes) :
    (s.changeAll cs).held part key =
      Edit.final (Change.allEdits cs) part key (s.held part key) := by
  rw [held, (h.changeAll cs).1, List.findSome?_map]
  simp only [Function.comp_def, Provider.changed, Tables.get?_changed]
  exact findSome?_final h.providers_ne_nil _ _ _ _

theorem get_eq_held (part : Partition) (key : Bytes) : s.get part key = .ok (s.held part key) :=
  h.get part key

theorem contains_eq_held (part : Partition) (key : Bytes) :
    s.contains part key = .ok (s.held part key).isSome := by
  rw [h.contains, any_contains]

/-- A vague provider might have anything. -/
theorem mayContain_eq_held (part : Partition) (key : Bytes) :
    s.mayContain part key = .ok ((s.held part key).isSome || s.providers.any (·.vague)) := by
  have hsplit : (s.providers.any fun p => p.vague || (p.tables.table part).contains key) =
      ((s.providers.any fun p => (p.tables.table part).contains key) ||
        s.providers.any (·.vague)) := by
    rw [Bool.eq_iff_iff]
    simp only [List.any_eq_true, Bool.or_eq_true, and_or_left, exists_or]
    exact or_comm
  rw [h.mayContain, hsplit, any_contains]

theorem any_vague_changeAll (cs : List Change) :
    (s.changeAll cs).providers.any (·.vague) = s.providers.any (·.vague) := by
  rw [(h.changeAll cs).1, List.any_map]
  rfl

/-- No change makes a provider vague. -/
theorem mayContain_changeAll (cs : List Change) (part : Partition) (key : Bytes) :
    (s.changeAll cs).mayContain part key =
      .ok (((s.changeAll cs).held part key).isSome || s.providers.any (·.vague)) := by
  rw [(h.changeAll cs).2.mayContain_eq_held, h.any_vague_changeAll]

end FaultFree

/-- After any changes a store of fault-free providers finds under every key
    what the last edit of the key left there, and under a key that was not
    edited what it found at first.  Every look-up agrees on that, except
    that a vague provider says of any key that it might be there.  Each
    provider by itself keeps what it had under keys that were not edited. -/
theorem look_ups_follow_last_edit {s : Store} (h : s.FaultFree) (cs : List Change)
    (part : Partition) (key : Bytes) :
    let s' := s.changeAll cs
    let found := Edit.final (Change.allEdits cs) part key (s.held part key)
    s'.get part key = .ok found ∧
    s'.contains part key = .ok found.isSome ∧
    s'.mayContain part key = .ok (found.isSome || s.providers.any (·.vague)) ∧
    ((∀ p ∈ s.providers, p.vague = false) → s'.mayContain part key = .ok found.isSome) ∧
    (∀ c, (s'.change c).1 = .ok true) ∧
    (s'.providers.map fun p => (p.tables.table part).get? key) =
      s.providers.map fun p =>
        Edit.final (Change.allEdits cs) part key ((p.tables.table part).get? key) := by
  intro s' found
  obtain ⟨heq, hfree⟩ := h.changeAll cs
  have hheld : s'.held part key = found := h.held_changeAll cs part key
  have hmay : s'.mayContain part key = .ok (found.isSome || s.providers.any (·.vague)) := by
    rw [hfree.mayContain_eq_held, hheld, h.any_vague_changeAll]
  refine ⟨?_, ?_, hmay, ?_, ?_, ?_⟩
  · rw [hfree.get_eq_held, hheld]
  · rw [hfree.contains_eq_held, hheld]
  · intro hexact
    have hnone : s.providers.any (·.vague) = false := by
      rw [List.any_eq_false]
      intro p hp
      rw [hexact p hp]
      exact Bool.false_ne_true
    rw [hmay, hnone, Bool.or_false]
  · intro c
    rw [hfree.change]
  · show ((s.changeAll cs).providers.map _) = _
    rw [heq, List.map_map]
    apply List.map_congr_left
    intro p _
    exact Tables.get?_changed p.tables cs part key

/-- Two layers that disagree about a milestone; the one behind knows another. -/
def disagreeing : Store :=
  ⟨[{ Provider.memory with tables := Tables.put .empty .milestone [1] [10] },
    { Provider.database with
      tables := Tables.put (Tables.put .empty .milestone [1] [11]) .milestone [2] [12] }]⟩

theorem faultFree_disagreeing : disagreeing.FaultFree :=
  .two ⟨fun _ _ => rfl, rfl⟩ ⟨fun _ _ => rfl, rfl⟩

/-- A removal hides the records of both layers, the later of two records in
    a batch stays, and what was not touched is found in the layer behind. -/
theorem look_ups_follow_last_edit_disagreeing :
    let cs : List Change :=
      [.saveAll [⟨.milestone, [3], [20]⟩, ⟨.milestone, [3], [21]⟩], .delete .milestone [1]]
    disagreeing.FaultFree ∧
      disagreeing.get .milestone [1] = .ok (some [10]) ∧
      (disagreeing.changeAll cs).get .milestone [1] = .ok none ∧
      (disagreeing.changeAll cs).get .milestone [2] = .ok (some [12]) ∧
      (disagreeing.changeAll cs).get .milestone [3] = .ok (some [21]) := by
  intro cs
  have h := faultFree_disagreeing
  refine ⟨h, (look_ups_follow_last_edit h [] .milestone [1]).1, ?_, ?_, ?_⟩
  · exact (look_ups_follow_last_edit h cs .milestone [1]).1
  · exact (look_ups_follow_last_edit h cs .milestone [2]).1
  · exact (look_ups_follow_last_edit h cs .milestone [3]).1

end Store

end TernaryGossip
