import TernaryGossip.Proofs.Lexicographic
import TernaryGossip.Proofs.OrderedMap
import TernaryGossip.Store.Key
import TernaryGossip.Store.Provider

/-! # Keys with a common beginning

    A provider finds the keys that begin with a byte string by going from
    the least key that is not below it as long as the keys begin with it.
    Byte strings with a common beginning stand together in their order, so
    this finds all of them: the answer is the plain filter of all keys.

    For reference keys the beginning is a hash, and the answer is the list
    of those that refer to it. -/

namespace TernaryGossip

namespace Bytes

/-! ## The order of byte strings -/

theorem compare_cons (x y : UInt8) (a b : Bytes) :
    compare (x :: a) (y :: b) = (compare x y).then (compare a b) :=
  List.compareLex_cons_cons

/-- What begins with a byte string is not below it. -/
theorem not_lt_of_prefix {start key : Bytes} (h : start <+: key) : compare key start ≠ .lt := by
  obtain ⟨rest, rfl⟩ := h
  induction start with
  | nil => cases rest <;> simp
  | cons x start ih =>
    have hx : compare x x = .eq := Std.ReflOrd.compare_self
    rw [List.cons_append, compare_cons, hx]
    exact ih

/-- What lies between a byte string and something that begins with it
    begins with it as well. -/
theorem prefix_of_between {start a b : Bytes} (hge : compare a start ≠ .lt)
    (hlt : compare a b = .lt) (hb : start <+: b) : start <+: a := by
  induction start generalizing a b with
  | nil => exact List.nil_prefix
  | cons x start ih =>
    obtain ⟨rest, rfl⟩ := hb
    cases a with
    | nil => exact absurd List.compareLex_nil_cons hge
    | cons y a =>
      rw [compare_cons] at hge
      rw [List.cons_append, compare_cons] at hlt
      -- the first bytes agree, or one of the two comparisons is decided by them
      cases hyx : compare y x with
      | lt => simp [hyx] at hge
      | gt => simp [hyx] at hlt
      | eq =>
        have hy : y = x := Std.LawfulEqCmp.eq_of_compare hyx
        simp only [hyx, Ordering.eq_then] at hge hlt
        rw [hy, List.cons_prefix_cons]
        exact ⟨rfl, ih hge hlt (List.prefix_append start rest)⟩

end Bytes

namespace Provider

/-! ## The scan -/

/-- The scan from a key on finds exactly the keys that begin with it. -/
theorem keysFrom_eq_filter (t : Table) (start : Bytes) :
    keysFrom t start = t.keys.filter (start.isPrefixOf ·) := by
  have hfront : ((t.entriesFrom start).map (·.1)).Pairwise
      fun a b => start.isPrefixOf b = true → start.isPrefixOf a = true := by
    rw [OrderedMap.entriesFrom_eq_filter, List.pairwise_map, List.pairwise_filter]
    refine t.sorted.imp ?_
    intro a b hab ha _ hb
    rw [List.isPrefixOf_iff_prefix] at hb ⊢
    exact Bytes.prefix_of_between (by simpa using ha) hab hb
  rw [keysFrom, OrderedMap.takeWhile_eq_filter_of_initial _ hfront,
    OrderedMap.entriesFrom_eq_filter, OrderedMap.keys, List.filter_map, List.filter_map,
    List.filter_filter]
  congr 1
  apply List.filter_congr
  intro e _
  -- an entry left out in front does not begin with `start` either
  by_cases hp : start.isPrefixOf e.1 = true
  · have := Bytes.not_lt_of_prefix (List.isPrefixOf_iff_prefix.mp hp)
    simp [hp, this]
  · simp [hp]

theorem mem_keysFrom (t : Table) (start key : Bytes) :
    key ∈ keysFrom t start ↔ t.contains key = true ∧ start <+: key := by
  rw [keysFrom_eq_filter, List.mem_filter, ← OrderedMap.contains_iff_mem_keys,
    List.isPrefixOf_iff_prefix]

theorem keysFrom_eq_nil (t : Table) (start : Bytes) :
    keysFrom t start = [] ↔ ∀ key, t.contains key = true → ¬ start <+: key := by
  rw [List.eq_nil_iff_forall_not_mem]
  constructor
  · intro h key hc hp
    exact h key ((mem_keysFrom t start key).mpr ⟨hc, hp⟩)
  · intro h key hk
    obtain ⟨hc, hp⟩ := (mem_keysFrom t start key).mp hk
    exact h key hc hp

end Provider

namespace Key

/-! ## Reference keys -/

theorem prefix_ofReference (h referred referrer : Hash) :
    h.bytes <+: ofReference referred referrer ↔ referred = h := by
  constructor
  · intro hp
    -- both are beginnings of the key, and equally long
    have hl : h.bytes.length = referred.bytes.length := by
      rw [h.length_bytes, referred.length_bytes]
    have := List.prefix_of_prefix_length_le hp (List.prefix_append _ _) (Nat.le_of_eq hl)
    exact Hash.eq_of_bytes_eq (this.eq_of_length hl).symm
  · rintro rfl
    exact List.prefix_append _ _

theorem ofHash_inj {a b : Hash} : ofHash a = ofHash b ↔ a = b :=
  ⟨Hash.eq_of_bytes_eq, fun h => by rw [h]⟩

end Key

end TernaryGossip
