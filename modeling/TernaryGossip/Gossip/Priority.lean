import TernaryGossip.Hash
import TernaryGossip.Net.Address

/-!
# Priorities

    Queued work is ordered by the proof of work in a hash.  A heavier hash
    comes first; of equally heavy ones, the last differing byte decides,
    read as a signed number, and the greater comes first; work for the same
    hash is ordered by the address it came from, work of the node itself
    before all.

    Each priority is turned into a list of numbers, its `sortKey`, and the
    order of priorities is the order of these lists.  Since equal lists
    belong to equal priorities, no work is mistaken for other work.
-/

namespace TernaryGossip

/-- What decides the place of an item in a queue. -/
structure Priority where
  /-- The proof of work. -/
  weight : Nat
  /-- The hash that the work is about. -/
  hash : Hash
  /-- The address that the work came from. -/
  origin : Option SocketAddress
  deriving DecidableEq

namespace Priority

/-- The numbers of an origin; none comes before every address. -/
def originKey : Option SocketAddress → List Int
  | none => []
  | some a => a.sortKey

/-- The numbers by which priorities are ordered. -/
def sortKey (p : Priority) : List Int :=
  -(p.weight : Int) :: p.hash.bytes.reverse.map (fun b => -SignedByte.value b) ++ originKey p.origin

theorem originKey_inj {a b : Option SocketAddress} (h : originKey a = originKey b) : a = b := by
  cases a with
  | none =>
    cases b with
    | none => rfl
    | some b => exact absurd h.symm b.sortKey_ne_nil
  | some a =>
    cases b with
    | none => exact absurd h a.sortKey_ne_nil
    | some b => rw [SocketAddress.sortKey_inj h]

theorem sortKey_inj {a b : Priority} (h : a.sortKey = b.sortKey) : a = b := by
  obtain ⟨w, g, o⟩ := a
  obtain ⟨v, k, q⟩ := b
  simp only [sortKey, List.cons_append, List.cons.injEq] at h
  obtain ⟨hw, hrest⟩ := h
  have hlen : (g.bytes.reverse.map fun b => -SignedByte.value b).length =
      (k.bytes.reverse.map fun b => -SignedByte.value b).length := by
    simp [g.length_bytes, k.length_bytes]
  obtain ⟨hh, ho⟩ := List.append_inj hrest hlen
  have hbytes : g.bytes = k.bytes := by
    apply List.reverse_inj.mp
    apply List.map_inj_right (f := fun b => -SignedByte.value b) _ |>.mp hh
    intro x y hxy
    exact SignedByte.value_inj.mp (by omega)
  simp only [Priority.mk.injEq]
  exact ⟨by omega, Hash.eq_of_bytes_eq hbytes, originKey_inj ho⟩

instance : Ord Priority := ⟨fun a b => compare a.sortKey b.sortKey⟩

theorem compare_def (a b : Priority) : compare a b = compare a.sortKey b.sortKey := rfl

instance : Std.TransOrd Priority where
  eq_swap {a b} := Std.OrientedOrd.eq_swap (a := a.sortKey) (b := b.sortKey)
  isLE_trans {a b c} hab hbc :=
    Std.TransOrd.isLE_trans (a := a.sortKey) (b := b.sortKey) (c := c.sortKey) hab hbc

instance : Std.LawfulEqOrd Priority where
  compare_self {a} := Std.ReflOrd.compare_self (a := a.sortKey)
  eq_of_compare {a b} h :=
    sortKey_inj (Std.LawfulEqOrd.eq_of_compare (a := a.sortKey) (b := b.sortKey) h)

end Priority

end TernaryGossip
