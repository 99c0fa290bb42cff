import TernaryGossip.Gossip.Priority
import TernaryGossip.Proofs.Lexicographic

/-! # The order of priorities

    Priorities are compared in three steps (`compare_eq_steps`): by weight,
    then by hash, then by origin, and each step is asked only if those before
    it do not tell the two apart.  Hashes are compared from the last byte on,
    so the last two bytes that differ decide (`compare_tailKey`).

    Together the steps are a total order in which only equal priorities are
    equal, so a map that is ordered by priority neither loses an entry nor
    holds two for the same work. -/

namespace TernaryGossip

/-! ## Hashes from behind -/

namespace Hash

/-- The numbers by which hashes of equal weight are ordered. -/
def tailKey (h : Hash) : List Int := h.bytes.reverse.map fun b => -SignedByte.value b

theorem length_tailKey (h : Hash) : h.tailKey.length = 49 := by
  rw [tailKey, List.length_map, List.length_reverse, h.length_bytes]

theorem tailKey_of_bytes {h : Hash} {front back : Bytes} {x : UInt8}
    (hbytes : h.bytes = front ++ x :: back) :
    h.tailKey = (back.reverse.map fun b => -SignedByte.value b) ++
      -SignedByte.value x :: front.reverse.map fun b => -SignedByte.value b := by
  simp [tailKey, hbytes]

/-- The bytes `x` and `y` of two hashes stand at the same place and differ,
    and behind this place the hashes agree. -/
def DifferLast (g h : Hash) (x y : UInt8) : Prop :=
  x ≠ y ∧ ∃ front front' back, g.bytes = front ++ x :: back ∧ h.bytes = front' ++ y :: back

end Hash

theorem Hash.exists_differLast {g h : Hash} (hne : g ≠ h) : ∃ x y, DifferLast g h x y := by
  have hlen : g.bytes.length = h.bytes.length := by rw [g.length_bytes, h.length_bytes]
  obtain ⟨x, y, front, front', back, hxy, hg, hh⟩ :=
    exists_last_difference hlen fun heq => hne (eq_of_bytes_eq heq)
  exact ⟨x, y, hxy, front, front', back, hg, hh⟩

/-! ## One step after another -/

namespace Priority

theorem compare_neg (v w : Int) : compare (-v) (-w) = compare w v := by
  rcases Int.lt_trichotomy v w with h | rfl | h
  · rw [Int.compare_eq_gt.mpr h, Int.compare_eq_gt.mpr (by omega)]
  · rw [Int.compare_eq_eq.mpr rfl, Int.compare_eq_eq.mpr rfl]
  · rw [Int.compare_eq_lt.mpr h, Int.compare_eq_lt.mpr (by omega)]

/-- The bytes that differ last decide, and the greater comes first. -/
theorem compare_tailKey {g h : Hash} {x y : UInt8} (hlast : g.DifferLast h x y) :
    compare g.tailKey h.tailKey = compare (SignedByte.value y) (SignedByte.value x) := by
  obtain ⟨hne, front, front', back, hg, hh⟩ := hlast
  have hvalue : compare (SignedByte.value y) (SignedByte.value x) ≠ .eq := fun heq =>
    hne (SignedByte.value_inj.mp (Int.compare_eq_eq.mp heq).symm)
  -- behind the place the keys agree, and what stands before it is not looked at
  rw [Hash.tailKey_of_bytes hg, Hash.tailKey_of_bytes hh, compare_append_left,
    List.compare_cons_cons, compare_neg]
  cases hcase : compare (SignedByte.value y) (SignedByte.value x) with
  | lt => rfl
  | eq => exact absurd hcase hvalue
  | gt => rfl

/-- The heavier comes first, then the hashes decide, and then the origins. -/
theorem compare_eq_steps (a b : Priority) :
    compare a b = (compare (b.weight : Int) a.weight).then
      ((compare a.hash.tailKey b.hash.tailKey).then
        (compare (originKey a.origin) (originKey b.origin))) := by
  have hlen : a.hash.tailKey.length = b.hash.tailKey.length := by
    rw [Hash.length_tailKey, Hash.length_tailKey]
  rw [compare_def, ← compare_append hlen, ← compare_neg]
  exact List.compare_cons_cons

/-! ## The order -/

/-- Of different weights the greater comes first. -/
theorem lt_iff_of_weight_ne {a b : Priority} (hne : a.weight ≠ b.weight) :
    compare a b = .lt ↔ b.weight < a.weight := by
  rw [compare_eq_steps, Ordering.then_eq_lt, Int.compare_eq_lt, Int.compare_eq_eq]
  constructor
  · rintro (hlt | ⟨heq, -⟩)
    · omega
    · exact absurd (Int.ofNat.inj heq).symm hne
  · intro hlt
    exact .inl (by omega)

/-- Of equal weights the greater of the bytes that differ last comes first. -/
theorem lt_iff_of_differLast {a b : Priority} (hweight : a.weight = b.weight) {x y : UInt8}
    (hlast : a.hash.DifferLast b.hash x y) :
    compare a b = .lt ↔ SignedByte.value y < SignedByte.value x := by
  have hself : compare (b.weight : Int) b.weight = .eq := Int.compare_eq_eq.mpr rfl
  have hvalue : SignedByte.value y ≠ SignedByte.value x := fun heq =>
    hlast.1 (SignedByte.value_inj.mp heq.symm)
  rw [compare_eq_steps, hweight, hself, Ordering.eq_then, compare_tailKey hlast,
    Ordering.then_eq_lt, Int.compare_eq_lt, Int.compare_eq_eq]
  exact ⟨fun h => h.resolve_right fun h => hvalue h.1, .inl⟩

/-- Priorities are equal in the order only if they are equal; the order is
    turned around when its sides are exchanged, and it is transitive.

    Of different weights the greater comes first.  Hashes that differ have a
    last place at which they do, and of equal weights the one with the
    greater byte there, read as signed, comes first. -/
theorem order_lawful :
    (∀ a b : Priority, compare a b = .eq ↔ a = b) ∧
    (∀ a b : Priority, compare a b = (compare b a).swap) ∧
    (∀ a b c : Priority, compare a b = .lt → compare b c = .lt → compare a c = .lt) ∧
    (∀ a b : Priority, a.weight ≠ b.weight → (compare a b = .lt ↔ b.weight < a.weight)) ∧
    ∀ a b : Priority, a.weight = b.weight → a.hash ≠ b.hash →
      (∃ x y, a.hash.DifferLast b.hash x y) ∧
      ∀ x y, a.hash.DifferLast b.hash x y →
        (compare a b = .lt ↔ SignedByte.value y < SignedByte.value x) := by
  refine ⟨fun a b => Std.LawfulEqOrd.compare_eq_iff_eq, fun a b => Std.OrientedOrd.eq_swap,
    fun a b c => Std.TransCmp.lt_trans, fun a b => lt_iff_of_weight_ne, ?_⟩
  intro a b hweight hne
  exact ⟨Hash.exists_differLast hne, fun x y hlast => lt_iff_of_differLast hweight hlast⟩

/-- Zeros, with a byte in the last place. -/
def endingIn (b : UInt8) : Hash := ⟨List.replicate 48 0 ++ [b], by simp⟩

/-- An address of a number that every link has, on one of the links. -/
def linkAddress (scope : UInt32) : SocketAddress := ⟨.v6 1 0 scope, 14600⟩

/-- Of equal weights 1 comes before 200, which is negative, and the heavier
    comes before both.  Origins that differ in their scopes alone are told
    apart. -/
theorem order_lawful_negative_byte :
    (endingIn 1).DifferLast (endingIn 200) 1 200 ∧
    compare (Priority.mk 7 (endingIn 1) none) ⟨7, endingIn 200, none⟩ = .lt ∧
    compare (Priority.mk 8 (endingIn 200) none) ⟨7, endingIn 1, none⟩ = .lt ∧
    compare (Priority.mk 8 (endingIn 200) none) ⟨7, endingIn 200, none⟩ = .lt ∧
    compare (Priority.mk 7 (endingIn 1) (some (linkAddress 1)))
      ⟨7, endingIn 1, some (linkAddress 2)⟩ ≠ .eq := by
  obtain ⟨hequals, -, htrans, hweight, hhash⟩ := order_lawful
  have hlast : (endingIn 1).DifferLast (endingIn 200) 1 200 :=
    ⟨by decide, List.replicate 48 0, List.replicate 48 0, [], rfl, rfl⟩
  have hequal := ((hhash ⟨7, endingIn 1, none⟩ ⟨7, endingIn 200, none⟩ rfl (by decide)).2
    1 200 hlast).mpr (by decide)
  have hheavier := (hweight ⟨8, endingIn 200, none⟩ ⟨7, endingIn 1, none⟩ (by decide)).mpr
    (by decide)
  have hscopes : linkAddress 1 ≠ linkAddress 2 := by decide
  refine ⟨hlast, hequal, hheavier, htrans _ _ _ hheavier hequal, fun heq => hscopes ?_⟩
  exact Option.some.inj (Priority.mk.inj ((hequals _ _).mp heq)).2.2

end Priority

end TernaryGossip
