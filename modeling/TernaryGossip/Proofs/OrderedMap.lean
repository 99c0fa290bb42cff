import Mathlib.Data.List.Induction
import Mathlib.Data.List.Nodup
import TernaryGossip.OrderedMap

/-! # What an ordered map holds

    The entries of a map under each operation, said by membership: writing
    a key replaces its entry and keeps all others, and the keys of a map
    are pairwise different.  The entries from a key on are those that are
    not below it.

    A write adds one entry and takes away at most one, that of the same key,
    and the first entries after it depend on the first entries before it
    alone.

    A map is known by its entries, in whatever order they are told.  The
    entries of a part of a map are therefore those of the map whose keys the
    part has, in the same order, and a question for the first or last entry
    of some kind has the same answer in both exactly if the part has the
    entry that the map answers with. -/

namespace TernaryGossip.OrderedMap

variable {κ ν : Type} [Ord κ]

theorem sorted_keys (m : OrderedMap κ ν) : m.keys.Pairwise fun a b => compare a b = .lt :=
  List.pairwise_map.mpr m.sorted

/-- No key is repeated. -/
theorem nodup_keys [Std.ReflOrd κ] (m : OrderedMap κ ν) : m.keys.Nodup := by
  refine m.sorted_keys.imp ?_
  rintro a b hlt rfl
  rw [Std.ReflOrd.compare_self] at hlt
  cases hlt

/-! ## Both ends -/

theorem entries_eq_of_first? {m : OrderedMap κ ν} {e : κ × ν} (h : m.first? = some e) :
    m.entries = e :: m.dropFirst.entries := by
  obtain ⟨es, hes⟩ := m
  cases es with
  | nil => cases h
  | cons x xs =>
    cases h
    rfl

theorem entries_eq_of_last? {m : OrderedMap κ ν} {e : κ × ν} (h : m.last? = some e) :
    m.entries = m.dropLast.entries ++ [e] := by
  obtain ⟨front, hfront⟩ := List.getLast?_eq_some_iff.mp h
  show m.entries = m.entries.dropLast ++ [e]
  rw [hfront, List.dropLast_concat]

/-! ## From a key on -/

/-- The keys below a bound stand in front, so leaving out the front leaves
    out all of them. -/
theorem entriesFrom_eq_filter [Std.TransOrd κ] (m : OrderedMap κ ν) (k : κ) :
    m.entriesFrom k = m.entries.filter fun e => !(compare e.1 k == .lt) := by
  obtain ⟨es, h⟩ := m
  unfold entriesFrom
  simp only
  induction es with
  | nil => rfl
  | cons e es ih =>
    obtain ⟨he, hes⟩ := List.pairwise_cons.mp h
    by_cases hlt : compare e.1 k = .lt
    · simp [hlt, ih hes]
    · -- the first key that is not below the bound has only greater ones behind it
      have hall : ∀ x ∈ e :: es, compare x.1 k ≠ .lt := by
        intro x hx
        rcases List.mem_cons.mp hx with rfl | hx
        · exact hlt
        · intro hxk
          exact hlt (Std.TransCmp.lt_trans (he x hx) hxk)
      rw [List.dropWhile_cons_of_neg (by simpa using hlt), eq_comm, List.filter_eq_self]
      intro x hx
      simpa using hall x hx

/-! ## Ascending lists -/

/-- Two lists that ascend along a key and have the same members are equal. -/
theorem eq_of_ascending {α : Type} (key : α → κ) [Std.TransOrd κ] {xs ys : List α}
    (hxs : xs.Pairwise fun a b => compare (key a) (key b) = .lt)
    (hys : ys.Pairwise fun a b => compare (key a) (key b) = .lt)
    (hmem : ∀ a, a ∈ xs ↔ a ∈ ys) : xs = ys := by
  have hne : ∀ {a b : α}, compare (key a) (key b) = .lt → a ≠ b := by
    rintro a b hlt rfl
    rw [Std.ReflOrd.compare_self] at hlt
    cases hlt
  refine List.Perm.eq_of_pairwise ?_ hxs hys ?_
  · -- no two members are below each other
    intro a b _ _ hab hba
    have := Std.TransCmp.lt_trans hab hba
    exact absurd rfl (hne this)
  · exact (List.perm_ext_iff_of_nodup (hxs.imp hne) (hys.imp hne)).mpr hmem

/-- In a list in which the members of a class stand in front, taking them
    as long as they come finds all of them. -/
theorem takeWhile_eq_filter_of_initial {α : Type} (p : α → Bool) {xs : List α}
    (h : xs.Pairwise fun a b => p b = true → p a = true) : xs.takeWhile p = xs.filter p := by
  induction xs with
  | nil => rfl
  | cons x xs ih =>
    obtain ⟨hx, hxs⟩ := List.pairwise_cons.mp h
    by_cases hp : p x = true
    · rw [List.takeWhile_cons_of_pos hp, List.filter_cons_of_pos hp, ih hxs]
    · rw [List.takeWhile_cons_of_neg hp, List.filter_cons_of_neg hp, eq_comm,
        List.filter_eq_nil_iff]
      intro y hy hpy
      exact hp (hx y hy hpy)

/-- The entries below a key are those in front of the first that is not. -/
theorem takeWhile_lt_eq_filter [Std.TransOrd κ] (m : OrderedMap κ ν) (k : κ) :
    (m.entries.takeWhile fun e => compare e.1 k == .lt) =
      m.entries.filter fun e => compare e.1 k == .lt := by
  refine takeWhile_eq_filter_of_initial _ (m.sorted.imp ?_)
  intro a b hab hbk
  rw [beq_iff_eq] at hbk ⊢
  exact Std.TransCmp.lt_trans hab hbk

theorem previous?_eq_find? [Std.TransOrd κ] (m : OrderedMap κ ν) (k : κ) :
    m.previous? k = m.entries.reverse.find? fun e => compare e.1 k == .lt := by
  rw [previous?, takeWhile_lt_eq_filter, List.getLast?_filter]

/-! ## Writing -/

theorem length_insertEntry_of_not_mem (k : κ) (v : ν) :
    ∀ es : List (κ × ν), (∀ e ∈ es, compare k e.1 ≠ .eq) →
      (insertEntry k v es).length = es.length + 1
  | [], _ => rfl
  | e :: es, h => by
    have he := h e List.mem_cons_self
    have hes := length_insertEntry_of_not_mem k v es fun x hx => h x (List.mem_cons_of_mem e hx)
    simp only [insertEntry]
    split
    · rfl
    · next heq => exact absurd heq he
    · simp [hes]

theorem length_insertEntry_le (k : κ) (v : ν) (es : List (κ × ν)) :
    (insertEntry k v es).length ≤ es.length + 1 := by
  induction es with
  | nil => exact Nat.le_refl _
  | cons e es ih =>
    simp only [insertEntry]
    split
    · exact Nat.le_refl _
    · exact Nat.le_succ _
    · exact Nat.succ_le_succ ih

/-- Only the first entries decide which are the first after a write. -/
theorem take_insertEntry (k : κ) (v : ν) (es : List (κ × ν)) (c : Nat) :
    (insertEntry k v (es.take c)).take c = (insertEntry k v es).take c := by
  induction es generalizing c with
  | nil => rw [List.take_nil]
  | cons e es ih =>
    cases c with
    | zero => rw [List.take_zero, List.take_zero]
    | succ c =>
      simp only [List.take_succ_cons, insertEntry]
      split
      · -- the new entry stands in front, and one more is cut off behind it
        rw [List.take_succ_cons, List.take_succ_cons]
        cases c with
        | zero => rw [List.take_zero, List.take_zero]
        | succ c =>
          rw [List.take_succ_cons, List.take_succ_cons, List.take_take,
            Nat.min_eq_left (Nat.le_succ c)]
      · rw [List.take_succ_cons, List.take_succ_cons, List.take_take, Nat.min_self]
      · rw [List.take_succ_cons, List.take_succ_cons, ih]

section lawful
variable [Std.LawfulEqOrd κ]

theorem contains_iff (m : OrderedMap κ ν) (k : κ) :
    m.contains k = true ↔ ∃ v, (k, v) ∈ m.entries := by
  rw [contains, Option.isSome_iff_exists]
  constructor
  · rintro ⟨v, hv⟩
    exact ⟨v, (mem_entries_iff m k v).mpr hv⟩
  · rintro ⟨v, hv⟩
    exact ⟨v, (mem_entries_iff m k v).mp hv⟩

theorem contains_iff_mem_keys (m : OrderedMap κ ν) (k : κ) :
    m.contains k = true ↔ k ∈ m.keys := by
  rw [contains_iff, keys, List.mem_map]
  constructor
  · rintro ⟨v, hv⟩
    exact ⟨(k, v), hv, rfl⟩
  · rintro ⟨⟨j, v⟩, hv, rfl⟩
    exact ⟨v, hv⟩

theorem get?_of_first? {m : OrderedMap κ ν} {k : κ} {v : ν} (h : m.first? = some (k, v)) :
    m.get? k = some v :=
  (mem_entries_iff m k v).mp (List.mem_of_head? h)

theorem get?_of_last? {m : OrderedMap κ ν} {k : κ} {v : ν} (h : m.last? = some (k, v)) :
    m.get? k = some v :=
  (mem_entries_iff m k v).mp (List.mem_of_getLast? h)

theorem get?_of_next? {m : OrderedMap κ ν} {j k : κ} {v : ν} (h : m.next? j = some (k, v)) :
    m.get? k = some v :=
  (mem_entries_iff m k v).mp (List.mem_of_find?_eq_some h)

theorem get?_of_previous? {m : OrderedMap κ ν} {j k : κ} {v : ν}
    (h : m.previous? j = some (k, v)) : m.get? k = some v :=
  (mem_entries_iff m k v).mp ((List.takeWhile_sublist _).subset (List.mem_of_getLast? h))

/-- The last entry is the one whose key is not below any other. -/
theorem last?_eq_of_greatest {m : OrderedMap κ ν} {k : κ} {v : ν} (hk : m.get? k = some v)
    (hgreatest : ∀ j w, m.get? j = some w → compare k j ≠ .lt) : m.last? = some (k, v) := by
  have hmem := (mem_entries_iff m k v).mpr hk
  have hne : m.entries ≠ [] := List.ne_nil_of_mem hmem
  have hlast : m.last? = some (m.entries.getLast hne) := List.getLast?_eq_some_getLast hne
  have hsplit := entries_eq_of_last? hlast
  have hsorted := m.sorted
  rw [hsplit] at hmem hsorted
  rcases List.mem_append.mp hmem with hfront | hend
  · -- an entry in front has a key below the last one
    have hlt := (List.pairwise_append.mp hsorted).2.2 _ hfront _ (List.mem_singleton_self _)
    have hget := (mem_entries_iff m _ _).mp (List.getLast_mem hne)
    exact absurd hlt (hgreatest _ _ hget)
  · rw [hlast, List.mem_singleton.mp hend]

variable [Std.TransOrd κ]

/-- A map is known by what it has under each key. -/
theorem ext_get? {m n : OrderedMap κ ν} (h : ∀ k, m.get? k = n.get? k) : m = n := by
  apply ext
  refine eq_of_ascending Prod.fst m.sorted n.sorted ?_
  rintro ⟨k, v⟩
  rw [mem_entries_iff, mem_entries_iff, h]

theorem entries_insert (m : OrderedMap κ ν) (k : κ) (v : ν) :
    (m.insert k v).entries = insertEntry k v m.entries := rfl

theorem mem_insert (m : OrderedMap κ ν) (k : κ) (v : ν) (e : κ × ν) :
    e ∈ (m.insert k v).entries ↔ e = (k, v) ∨ (e.1 ≠ k ∧ e ∈ m.entries) := by
  obtain ⟨j, w⟩ := e
  rw [mem_entries_iff, mem_entries_iff]
  by_cases hjk : j = k
  · subst hjk
    simp [eq_comm]
  · simp [get?_insert_of_ne m v hjk, hjk]

theorem contains_insert (m : OrderedMap κ ν) (k j : κ) (v : ν) :
    (m.insert k v).contains j = true ↔ j = k ∨ m.contains j = true := by
  by_cases hjk : j = k
  · subst hjk
    simp [contains]
  · simp [contains, get?_insert_of_ne m v hjk, hjk]

theorem size_insert_of_not_contains {m : OrderedMap κ ν} {k : κ} (v : ν)
    (h : m.contains k = false) : (m.insert k v).size = m.size + 1 := by
  apply length_insertEntry_of_not_mem
  intro e he heq
  have hk : k = e.1 := Std.LawfulEqCmp.eq_of_compare heq
  have : m.contains k = true := (contains_iff m k).mpr ⟨e.2, by rw [hk]; exact he⟩
  rw [this] at h
  cases h

/-- A write adds an entry and takes away the one of the same key, if any. -/
theorem perm_insert (m : OrderedMap κ ν) (k : κ) (v : ν) :
    ((m.insert k v).entries ++ (m.get? k).toList.map fun w => (k, w)).Perm
      ((k, v) :: m.entries) := by
  obtain ⟨es, hsorted⟩ := m
  unfold insert get?
  simp only
  induction es with
  | nil => exact List.Perm.refl _
  | cons e es ih =>
    obtain ⟨he, hes⟩ := List.pairwise_cons.mp hsorted
    simp only [insertEntry, List.find?_cons]
    cases hk : compare k e.1 with
    | lt =>
      -- all keys behind are greater, so none is replaced
      have hnone : es.find? (fun x => compare k x.1 == .eq) = none := by
        rw [List.find?_eq_none]
        intro x hx heq
        have hlt := Std.TransCmp.lt_trans hk (he x hx)
        rw [hlt] at heq
        cases heq
      simp [hnone]
    | eq =>
      have hke : k = e.1 := Std.LawfulEqCmp.eq_of_compare hk
      simp only [beq_self_eq_true, Option.map_some, Option.toList_some, List.map_cons, List.map_nil,
        List.cons_append]
      refine .cons _ ?_
      rw [hke]
      exact List.perm_append_singleton e es
    | gt =>
      have hne : (Ordering.gt == Ordering.eq) = false := rfl
      simp only [hne, List.cons_append]
      exact ((ih hes).cons e).trans (.swap _ _ _)

theorem size_insert_of_contains {m : OrderedMap κ ν} {k : κ} (v : ν) (h : m.contains k = true) :
    (m.insert k v).size = m.size := by
  obtain ⟨w, hw⟩ := Option.isSome_iff_exists.mp h
  have hlength := (m.perm_insert k v).length_eq
  rw [hw] at hlength
  exact Nat.succ.inj ((List.length_append).symm.trans hlength)

/-! ## Writing several entries -/

theorem ofList_concat (es : List (κ × ν)) (e : κ × ν) :
    ofList (es ++ [e]) = (ofList es).insert e.1 e.2 := by
  rw [ofList, List.foldl_append]
  rfl

/-- Of several entries written under one key the last stays, and what no
    entry is written under stays as it was. -/
theorem get?_foldl_insert (m : OrderedMap κ ν) (es : List (κ × ν)) (k : κ) :
    (es.foldl (fun m e => m.insert e.1 e.2) m).get? k =
      ((es.reverse.find? fun e => compare k e.1 == .eq).map (·.2)).or (m.get? k) := by
  induction es using List.reverseRecOn with
  | nil => rfl
  | append_singleton es e ih =>
    rw [List.foldl_concat, List.reverse_concat, List.find?_cons]
    by_cases hk : k = e.1
    · subst hk
      simp
    · have hne : (compare k e.1 == .eq) = false :=
        beq_eq_false_iff_ne.mpr fun h => hk (Std.LawfulEqCmp.eq_of_compare h)
      rw [get?_insert_of_ne _ _ hk, hne, ih]

/-- Of several entries with one key the last stays. -/
theorem get?_ofList (es : List (κ × ν)) (k : κ) :
    (ofList es).get? k = (es.reverse.find? fun e => compare k e.1 == .eq).map (·.2) := by
  rw [ofList, get?_foldl_insert, get?_empty, Option.or_none]

/-- Of entries with different keys all stay. -/
theorem get?_ofList_iff_mem {es : List (κ × ν)} (hkeys : (es.map Prod.fst).Nodup) (k : κ) (v : ν) :
    (ofList es).get? k = some v ↔ (k, v) ∈ es := by
  have hfound : ∀ {e}, (es.reverse.find? fun e => compare k e.1 == .eq) = some e →
      e ∈ es ∧ k = e.1 := by
    intro e he
    have hk : (compare k e.1 == .eq) = true :=
      List.find?_some (p := fun e : κ × ν => compare k e.1 == .eq) he
    exact ⟨List.mem_reverse.mp (List.mem_of_find?_eq_some he),
      Std.LawfulEqCmp.eq_of_compare (beq_iff_eq.mp hk)⟩
  rw [get?_ofList, Option.map_eq_some_iff]
  constructor
  · rintro ⟨e, he, rfl⟩
    obtain ⟨hmem, rfl⟩ := hfound he
    exact hmem
  · intro hmem
    have hsome : (es.reverse.find? fun e => compare k e.1 == .eq).isSome = true := by
      rw [List.find?_isSome]
      exact ⟨(k, v), List.mem_reverse.mpr hmem, by simp⟩
    obtain ⟨e, he⟩ := Option.isSome_iff_exists.mp hsome
    obtain ⟨hmem', hk⟩ := hfound he
    have heq : (k, v) = e := List.inj_on_of_nodup_map hkeys hmem hmem' hk
    exact ⟨e, he, by rw [← heq]⟩

/-- The entries of a map make it, in whatever order they are written. -/
theorem ofList_of_perm {m : OrderedMap κ ν} {es : List (κ × ν)} (h : es.Perm m.entries) :
    ofList es = m := by
  have hkeys : (es.map Prod.fst).Nodup := (h.map Prod.fst).nodup_iff.mpr m.nodup_keys
  apply ext_get?
  intro k
  apply Option.ext
  intro v
  rw [get?_ofList_iff_mem hkeys, h.mem_iff, mem_entries_iff]

/-! ## Parts of a map -/

/-- Every entry of the one map is an entry of the other. -/
def Part (m n : OrderedMap κ ν) : Prop := ∀ k v, m.get? k = some v → n.get? k = some v

/-- The entries of a part are those of the whole whose keys the part has. -/
theorem Part.entries_eq {m n : OrderedMap κ ν} (h : m.Part n) :
    m.entries = n.entries.filter fun e => m.contains e.1 := by
  refine eq_of_ascending Prod.fst m.sorted (n.sorted.filter _) ?_
  rintro ⟨k, v⟩
  rw [List.mem_filter, mem_entries_iff, mem_entries_iff, contains]
  constructor
  · intro hm
    exact ⟨h k v hm, by rw [hm]; rfl⟩
  · rintro ⟨hn, hc⟩
    obtain ⟨w, hw⟩ := Option.isSome_iff_exists.mp hc
    have hsame := h k w hw
    rw [hn] at hsame
    rw [hw, hsame]

/-- The keys of a part are those of the whole that it has. -/
theorem Part.keys_eq {m n : OrderedMap κ ν} (h : m.Part n) :
    m.keys = n.keys.filter m.contains := by
  rw [keys, h.entries_eq, keys, List.filter_map]
  rfl

end lawful

end TernaryGossip.OrderedMap
