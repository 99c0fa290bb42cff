/-!
# Ordered maps

    A finite map that keeps its entries in strictly ascending order of their
    keys.  Tables of a store and the bounded queues of a node are ordered
    maps: both need the first, the last and the neighbouring entries of a
    key, and both show their content in key order.

    The entries are the view of a map.  Each operation below is stated on
    them, and the order is part of the type, so it never has to be assumed.
-/

namespace TernaryGossip

/-- Key and value pairs in strictly ascending order of the keys. -/
structure OrderedMap (κ ν : Type) [Ord κ] where
  /-- The entries. -/
  entries : List (κ × ν)
  /-- The keys ascend strictly. -/
  sorted : entries.Pairwise fun a b => compare a.1 b.1 = .lt

namespace OrderedMap

variable {κ ν : Type} [Ord κ]

theorem ext {m n : OrderedMap κ ν} (h : m.entries = n.entries) : m = n := by
  cases m; cases n; simp_all

/-! ## Reading -/

/-- The map without entries. -/
def empty : OrderedMap κ ν := ⟨[], .nil⟩

instance : Inhabited (OrderedMap κ ν) := ⟨empty⟩

@[simp] theorem entries_empty : (empty : OrderedMap κ ν).entries = [] := rfl

/-- The value under a key. -/
def get? (m : OrderedMap κ ν) (k : κ) : Option ν :=
  (m.entries.find? fun e => compare k e.1 == .eq).map (·.2)

@[simp] theorem get?_empty (k : κ) : (empty : OrderedMap κ ν).get? k = none := rfl

/-- Some value is stored under the key. -/
def contains (m : OrderedMap κ ν) (k : κ) : Bool := (m.get? k).isSome

/-- The number of entries. -/
def size (m : OrderedMap κ ν) : Nat := m.entries.length

/-- There is no entry. -/
def isEmpty (m : OrderedMap κ ν) : Bool := m.entries.isEmpty

/-- The keys in ascending order. -/
def keys (m : OrderedMap κ ν) : List κ := m.entries.map (·.1)

/-- The values in the order of their keys. -/
def values (m : OrderedMap κ ν) : List ν := m.entries.map (·.2)

/-- The entry of the least key. -/
def first? (m : OrderedMap κ ν) : Option (κ × ν) := m.entries.head?

/-- The entry of the greatest key. -/
def last? (m : OrderedMap κ ν) : Option (κ × ν) := m.entries.getLast?

/-- The entry of the least key above `k`. -/
def next? (m : OrderedMap κ ν) (k : κ) : Option (κ × ν) :=
  m.entries.find? fun e => compare k e.1 == .lt

/-- The entry of the greatest key below `k`. -/
def previous? (m : OrderedMap κ ν) (k : κ) : Option (κ × ν) :=
  (m.entries.takeWhile fun e => compare e.1 k == .lt).getLast?

/-- The entries from the least key that is not below `k` on. -/
def entriesFrom (m : OrderedMap κ ν) (k : κ) : List (κ × ν) :=
  m.entries.dropWhile fun e => compare e.1 k == .lt

/-! ## Removing -/

/-- The map without the entry of a key. -/
def erase (m : OrderedMap κ ν) (k : κ) : OrderedMap κ ν :=
  ⟨m.entries.filter fun e => compare k e.1 != .eq, m.sorted.filter _⟩

/-- The map without its first entry. -/
def dropFirst (m : OrderedMap κ ν) : OrderedMap κ ν :=
  ⟨m.entries.tail, m.sorted.sublist (List.tail_sublist _)⟩

/-- The map without its last entry. -/
def dropLast (m : OrderedMap κ ν) : OrderedMap κ ν :=
  ⟨m.entries.dropLast, m.sorted.sublist (List.dropLast_sublist _)⟩

/-! ## Writing -/

/-- Puts an entry at its place, in front of the first greater key; an entry
of the same key is replaced. -/
def insertEntry (k : κ) (v : ν) : List (κ × ν) → List (κ × ν)
  | [] => [(k, v)]
  | e :: es =>
      match compare k e.1 with
      | .lt => (k, v) :: e :: es
      | .eq => (k, v) :: es
      | .gt => e :: insertEntry k v es

theorem mem_insertEntry {k : κ} {v : ν} {x : κ × ν} {es : List (κ × ν)}
    (h : x ∈ insertEntry k v es) : x = (k, v) ∨ x ∈ es := by
  induction es with
  | nil => simpa [insertEntry] using h
  | cons e es ih =>
    simp only [insertEntry] at h
    split at h
    · simpa using h
    · rcases List.mem_cons.mp h with h | h
      · exact .inl h
      · exact .inr (by simp [h])
    · rcases List.mem_cons.mp h with h | h
      · exact .inr (by simp [h])
      · rcases ih h with h | h
        · exact .inl h
        · exact .inr (by simp [h])

variable [Std.LawfulEqOrd κ]

@[simp] theorem get?_erase_self (m : OrderedMap κ ν) (k : κ) : (m.erase k).get? k = none := by
  simp [get?, erase, List.find?_eq_none]

@[simp] theorem get?_erase_of_ne (m : OrderedMap κ ν) {k j : κ} (hne : j ≠ k) :
    (m.erase k).get? j = m.get? j := by
  obtain ⟨es, h⟩ := m
  unfold get? erase
  simp only
  clear h
  induction es with
  | nil => rfl
  | cons e es ih =>
    by_cases hk : compare k e.1 = .eq
    · have hke : k = e.1 := Std.LawfulEqCmp.eq_of_compare hk
      have hjk : compare j k ≠ .eq := fun he => hne (Std.LawfulEqCmp.eq_of_compare he)
      simp [← hke, hjk] at ih ⊢
      exact ih
    · by_cases hj : compare j e.1 = .eq
      · simp [hk, hj]
      · simpa [hk, List.find?_cons, hj] using ih

theorem mem_entries_iff (m : OrderedMap κ ν) (k : κ) (v : ν) :
    (k, v) ∈ m.entries ↔ m.get? k = some v := by
  obtain ⟨es, h⟩ := m
  unfold get?
  simp only
  induction es with
  | nil => simp
  | cons e es ih =>
    obtain ⟨h1, h2⟩ := List.pairwise_cons.mp h
    by_cases he : compare k e.1 = .eq
    · have hke : k = e.1 := Std.LawfulEqCmp.eq_of_compare he
      simp only [List.mem_cons, List.find?_cons, he, beq_self_eq_true, Option.map_some,
        Option.some.injEq]
      constructor
      · rintro (hx | hx)
        · rw [← hx]
        · have := h1 _ hx
          simp [← hke] at this
      · intro hv; left; rw [hke, ← hv]
    · simp only [List.mem_cons, List.find?_cons, beq_eq_false_iff_ne.mpr he]
      rw [← ih h2]
      constructor
      · rintro (hx | hx)
        · rw [← hx] at he; simp at he
        · exact hx
      · exact .inr

variable [Std.TransOrd κ]

theorem sorted_insertEntry (k : κ) (v : ν) {es : List (κ × ν)}
    (h : es.Pairwise fun a b => compare a.1 b.1 = .lt) :
    (insertEntry k v es).Pairwise fun a b => compare a.1 b.1 = .lt := by
  induction es with
  | nil => simp [insertEntry]
  | cons e es ih =>
    have hes := List.pairwise_cons.mp h
    simp only [insertEntry]
    split
    · rename_i hlt
      refine List.pairwise_cons.mpr ⟨fun x hx => ?_, h⟩
      rcases List.mem_cons.mp hx with rfl | hx
      · exact hlt
      · exact Std.TransCmp.lt_trans hlt (hes.1 x hx)
    · rename_i heq
      have hke : k = e.1 := Std.LawfulEqCmp.eq_of_compare heq
      refine List.pairwise_cons.mpr ⟨fun x hx => ?_, hes.2⟩
      exact hke ▸ hes.1 x hx
    · rename_i hgt
      refine List.pairwise_cons.mpr ⟨fun x hx => ?_, ih hes.2⟩
      rcases mem_insertEntry hx with rfl | hx
      · exact Std.OrientedCmp.gt_iff_lt.mp hgt
      · exact hes.1 x hx

/-- Puts a value under a key, in place of the one that was there. -/
def insert (m : OrderedMap κ ν) (k : κ) (v : ν) : OrderedMap κ ν :=
  ⟨insertEntry k v m.entries, sorted_insertEntry k v m.sorted⟩

/-- The map of a list of entries; of several under one key the last stays. -/
def ofList (es : List (κ × ν)) : OrderedMap κ ν :=
  es.foldl (fun m e => m.insert e.1 e.2) empty

/-! ## Characterising lemmas -/

@[simp] theorem get?_insert_self (m : OrderedMap κ ν) (k : κ) (v : ν) :
    (m.insert k v).get? k = some v := by
  obtain ⟨es, h⟩ := m
  unfold get? insert
  simp only
  clear h
  induction es with
  | nil => simp [insertEntry]
  | cons e es ih =>
    simp only [insertEntry]
    split
    · simp
    · simp
    · rename_i hgt
      simp only [List.find?_cons, hgt]
      simpa using ih

@[simp] theorem get?_insert_of_ne (m : OrderedMap κ ν) {k j : κ} (v : ν) (hne : j ≠ k) :
    (m.insert k v).get? j = m.get? j := by
  obtain ⟨es, h⟩ := m
  have hjk : compare j k ≠ .eq := fun he => hne (Std.LawfulEqCmp.eq_of_compare he)
  unfold get? insert
  simp only
  clear h
  induction es with
  | nil => simp [insertEntry, hjk]
  | cons e es ih =>
    simp only [insertEntry]
    split
    · simp [List.find?_cons, hjk]
    · rename_i heq
      have hke : k = e.1 := Std.LawfulEqCmp.eq_of_compare heq
      simp [← hke, hjk]
    · by_cases he : compare j e.1 = .eq
      · simp [he]
      · simpa [List.find?_cons, he] using ih

end OrderedMap

end TernaryGossip
