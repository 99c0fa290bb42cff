import TernaryGossip.Gossip.WeightQueue
import TernaryGossip.Proofs.OrderedMap

/-! # What a bounded queue loses

    A push loses at most two items: one that waited under the same
    priority, which the pushed item replaces, and one that is dropped
    because the queue is full, which the push yields.  Everything else
    stays, and a pop takes exactly the first item. -/

namespace TernaryGossip.WeightQueue

variable {α : Type}

/-- Every item waits under its own priority. -/
def Keyed (priority : α → Priority) (q : WeightQueue α) : Prop :=
  ∀ e ∈ q.items.entries, e.1 = priority e.2

theorem mem_toList {q : WeightQueue α} {a : α} :
    a ∈ q.toList ↔ ∃ p, (p, a) ∈ q.items.entries := by
  simp [toList, OrderedMap.values]

@[simp] theorem toList_empty (capacity : Nat) : (empty capacity : WeightQueue α).toList = [] := rfl

theorem keyed_empty (priority : α → Priority) (capacity : Nat) :
    (empty capacity).Keyed priority :=
  fun _ he => absurd he List.not_mem_nil

/-! ## Pushing -/

theorem entries_push (q : WeightQueue α) (p : Priority) (a : α) :
    (∃ e, (q.push p a).1 = some e.2 ∧
      (q.items.insert p a).entries = (q.push p a).2.items.entries ++ [e]) ∨
    ((q.push p a).1 = none ∧ (q.items.insert p a).entries = (q.push p a).2.items.entries) := by
  unfold push
  simp only
  split
  · cases hlast : (q.items.insert p a).last? with
    | none =>
      -- there is a last item, the pushed one if no other
      have hnil : (q.items.insert p a).entries = [] := List.getLast?_eq_none_iff.mp hlast
      have hmem : (p, a) ∈ (q.items.insert p a).entries :=
        (OrderedMap.mem_insert _ _ _ _).mpr (.inl rfl)
      rw [hnil] at hmem
      cases hmem
    | some e => exact .inl ⟨e, rfl, OrderedMap.entries_eq_of_last? hlast⟩
  · exact .inr ⟨rfl, rfl⟩

theorem mem_of_mem_push {q : WeightQueue α} {p : Priority} {a : α} {e : Priority × α}
    (h : e ∈ (q.push p a).2.items.entries) : e = (p, a) ∨ e ∈ q.items.entries := by
  have hins : e ∈ (q.items.insert p a).entries := by
    rcases entries_push q p a with ⟨x, _, heq⟩ | ⟨_, heq⟩
    · rw [heq]; exact List.mem_append_left _ h
    · rw [heq]; exact h
  rcases (OrderedMap.mem_insert _ _ _ _).mp hins with h' | ⟨_, h'⟩
  · exact .inl h'
  · exact .inr h'

theorem mem_of_mem_toList_push {q : WeightQueue α} {p : Priority} {a b : α}
    (h : b ∈ (q.push p a).2.toList) : b = a ∨ b ∈ q.toList := by
  obtain ⟨key, hmem⟩ := mem_toList.mp h
  rcases mem_of_mem_push hmem with heq | hmem
  · exact .inl (Prod.mk.inj heq).2
  · exact .inr (mem_toList.mpr ⟨key, hmem⟩)

/-- What is put into the map of a queue stays there or is dropped. -/
theorem mem_push_of_mem_insert {q : WeightQueue α} {p : Priority} {a : α} {e : Priority × α}
    (h : e ∈ (q.items.insert p a).entries) :
    e ∈ (q.push p a).2.items.entries ∨ (q.push p a).1 = some e.2 := by
  rcases entries_push q p a with ⟨x, hx, heq⟩ | ⟨_, heq⟩
  · rw [heq] at h
    rcases List.mem_append.mp h with h | h
    · exact .inl h
    · rw [List.mem_singleton.mp h]
      exact .inr hx
  · rw [heq] at h
    exact .inl h

theorem mem_push_self (q : WeightQueue α) (p : Priority) (a : α) :
    (p, a) ∈ (q.push p a).2.items.entries ∨ (q.push p a).1 = some a :=
  mem_push_of_mem_insert ((OrderedMap.mem_insert _ _ _ _).mpr (.inl rfl))

/-- An item that waited still waits, or is dropped, or was replaced by one
    of the same priority. -/
theorem mem_push_of_mem {q : WeightQueue α} {p : Priority} {a : α} {e : Priority × α}
    (h : e ∈ q.items.entries) :
    e.1 = p ∨ e ∈ (q.push p a).2.items.entries ∨ (q.push p a).1 = some e.2 := by
  by_cases hp : e.1 = p
  · exact .inl hp
  · exact .inr (mem_push_of_mem_insert ((OrderedMap.mem_insert _ _ _ _).mpr (.inr ⟨hp, h⟩)))

theorem Keyed.push {priority : α → Priority} {q : WeightQueue α} (h : q.Keyed priority) (a : α) :
    (q.push (priority a) a).2.Keyed priority := by
  intro e he
  rcases mem_of_mem_push he with rfl | he
  · rfl
  · exact h e he

theorem push_empty (capacity : Nat) (p : Priority) (a : α) :
    (empty capacity).push p a = (none, ⟨OrderedMap.empty.insert p a, max capacity 1⟩) := by
  have hfits : ¬ (OrderedMap.empty.insert p a).size > max capacity 1 := by
    show ¬ 1 > max capacity 1
    omega
  simp [push, empty, hfits]

/-! ## Taking -/

theorem entries_of_pop? {q q' : WeightQueue α} {a : α} (h : q.pop? = some (a, q')) :
    ∃ p, q.items.entries = (p, a) :: q'.items.entries := by
  unfold pop? at h
  cases hf : q.items.first? with
  | none => rw [hf] at h; cases h
  | some e =>
    rw [hf] at h
    cases h
    exact ⟨e.1, OrderedMap.entries_eq_of_first? hf⟩

theorem toList_of_pop? {q q' : WeightQueue α} {a : α} (h : q.pop? = some (a, q')) :
    q.toList = a :: q'.toList := by
  obtain ⟨p, hp⟩ := entries_of_pop? h
  simp [toList, OrderedMap.values, hp]

theorem mem_of_mem_pop {q q' : WeightQueue α} {a b : α} (h : q.pop? = some (a, q'))
    (hb : b ∈ q'.toList) : b ∈ q.toList := by
  rw [toList_of_pop? h]
  exact List.mem_cons_of_mem a hb

theorem pop?_push_empty (capacity : Nat) (p : Priority) (a : α) :
    ((empty capacity).push p a).2.pop? = some (a, empty capacity) := by
  rw [push_empty]
  rfl

theorem Keyed.pop {priority : α → Priority} {q q' : WeightQueue α} {a : α}
    (h : q.Keyed priority) (hpop : q.pop? = some (a, q')) : q'.Keyed priority := by
  obtain ⟨p, hp⟩ := entries_of_pop? hpop
  intro e he
  exact h e (by rw [hp]; exact List.mem_cons_of_mem _ he)

end TernaryGossip.WeightQueue
