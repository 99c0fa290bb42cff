import Mathlib.Algebra.GroupWithZero.Nat
import TernaryGossip.Gossip.Neighbor

/-! # What the roster counts

    A neighbor is known when the roster has counts for it, whether it is
    listed or not.  Making, listing, striking off and replacing neighbors
    leave the counts of the known ones as they are; only counting changes
    one, and it changes that of one neighbor. -/

namespace TernaryGossip.Roster

/-- The roster has counts for a neighbor. -/
def Known (r : Roster) (n : Neighbor) : Prop := n.id < r.tallies.length

/-- Every listed neighbor is known. -/
def Valid (r : Roster) : Prop := ∀ n ∈ r.listed, r.Known n

/-- The number of new transactions of every neighbor. -/
def freshCounts (r : Roster) : List Nat := r.tallies.map (·.fresh)

theorem length_freshCounts (r : Roster) : r.freshCounts.length = r.tallies.length :=
  List.length_map _

theorem fresh_tally (r : Roster) (n : Neighbor) : (r.tally n).fresh = r.freshCounts.getD n.id 0 := by
  rw [tally, freshCounts, List.getD_eq_getElem?_getD, List.getD_eq_getElem?_getD, List.getElem?_map]
  cases r.tallies[n.id]? <;> rfl

theorem valid_empty : empty.Valid := fun _ hn => absurd hn List.not_mem_nil

theorem mem_of_find? {r : Roster} {sender : SocketAddress} {kind : TransportKind} {n : Neighbor}
    (h : r.find? sender kind = some n) : n ∈ r.listed :=
  List.mem_of_find?_eq_some h

/-! ## Changes that count nothing as new -/

/-- A roster comes from another one without counting anything as new. -/
structure Grows (r r' : Roster) : Prop where
  fresh : ∃ k, r'.freshCounts = r.freshCounts ++ List.replicate k 0
  valid : r.Valid → r'.Valid

namespace Grows

theorem refl (r : Roster) : r.Grows r := ⟨⟨0, by simp⟩, id⟩

theorem trans {r r' r'' : Roster} (h : r.Grows r') (h' : r'.Grows r'') : r.Grows r'' := by
  obtain ⟨k, hk⟩ := h.fresh
  obtain ⟨l, hl⟩ := h'.fresh
  refine ⟨⟨k + l, ?_⟩, h'.valid ∘ h.valid⟩
  rw [hl, hk, List.append_assoc, List.replicate_append_replicate]

variable {r r' : Roster} (h : r.Grows r')
include h

theorem known {n : Neighbor} (hn : r.Known n) : r'.Known n := by
  obtain ⟨k, hk⟩ := h.fresh
  have hlen := congrArg List.length hk
  rw [List.length_append, length_freshCounts, length_freshCounts] at hlen
  exact Nat.lt_of_lt_of_le hn (by omega)

theorem fresh_tally (n : Neighbor) : (r'.tally n).fresh = (r.tally n).fresh := by
  obtain ⟨k, hk⟩ := h.fresh
  rw [Roster.fresh_tally, Roster.fresh_tally, hk, List.getD_eq_getElem?_getD,
    List.getD_eq_getElem?_getD]
  by_cases hn : n.id < r.freshCounts.length
  · rw [List.getElem?_append_left hn]
  · -- an unknown neighbor has no count before, and none or zero after
    have hle := Nat.le_of_not_lt hn
    rw [List.getElem?_append_right hle, List.getElem?_eq_none hle, List.getElem?_replicate]
    split <;> rfl

theorem sum_freshCounts : r'.freshCounts.sum = r.freshCounts.sum := by
  obtain ⟨k, hk⟩ := h.fresh
  rw [hk, List.sum_append, List.sum_replicate_nat, Nat.mul_zero, Nat.add_zero]

end Grows

theorem grows_of_tallies {r r' : Roster} (ht : r'.tallies = r.tallies)
    (hl : ∀ n ∈ r'.listed, n ∈ r.listed) : r.Grows r' := by
  refine ⟨⟨0, by simp [freshCounts, ht]⟩, ?_⟩
  intro hv n hn
  unfold Known
  rw [ht]
  exact hv n (hl n hn)

/-- A new neighbor has counts, all of them zero. -/
theorem make_grows (r : Roster) (uri : NeighborUri) (address : SocketAddress) (configured : Bool) :
    r.Grows (r.make uri address configured).2 ∧
      (r.make uri address configured).2.Known (r.make uri address configured).1 := by
  refine ⟨⟨⟨1, by simp [make, freshCounts, Tally.zero]⟩, ?_⟩, ?_⟩
  · intro hv n hn
    have : n.id < r.tallies.length := hv n hn
    simp [Known, make]
    omega
  · simp [Known, make]

theorem add_grows {r : Roster} {n : Neighbor} (hn : r.Known n) : r.Grows (r.add n).2 := by
  unfold add
  split
  · exact .refl r
  · refine ⟨⟨0, by simp [freshCounts]⟩, ?_⟩
    intro hv q hq
    rcases List.mem_append.mp hq with hq | hq
    · exact hv q hq
    · rw [List.mem_singleton.mp hq]
      exact hn

theorem meet_grows (r : Roster) (uri : NeighborUri) (address : SocketAddress) (configured : Bool) :
    r.Grows ((r.make uri address configured).2.add (r.make uri address configured).1).2 := by
  obtain ⟨hgrows, hknown⟩ := r.make_grows uri address configured
  exact hgrows.trans (add_grows hknown)

theorem remove_grows (r : Roster) (address : SocketAddress) (kind : TransportKind) :
    r.Grows (r.remove address kind).2 :=
  grows_of_tallies rfl fun _ hn => (List.mem_filter.mp hn).1

theorem replace_grows {r : Roster} (old : Neighbor) {new : Neighbor} (hn : r.Known new) :
    r.Grows (r.replace old new).2 := by
  unfold replace
  split
  · refine ⟨⟨0, by simp [freshCounts]⟩, ?_⟩
    intro hv q hq
    rcases List.mem_or_eq_of_mem_set hq with hq | rfl
    · exact hv q hq
    · exact hn
  · exact .refl r

@[simp] theorem known_bump (r : Roster) (n q : Neighbor) (c : Counter) :
    (r.bump n c).Known q ↔ r.Known q := by
  simp [Known, bump]

/-- Counting adds no neighbor and takes none away. -/
theorem valid_bump {r : Roster} (h : r.Valid) (n : Neighbor) (c : Counter) : (r.bump n c).Valid :=
  fun q hq => (r.known_bump n q c).mpr (h q hq)

theorem bump_grows (r : Roster) (n : Neighbor) {c : Counter} (hc : c ≠ .fresh) :
    r.Grows (r.bump n c) := by
  have hsame : (r.bump n c).freshCounts = r.freshCounts := by
    rw [bump, freshCounts, freshCounts]
    apply List.ext_getElem?
    intro i
    rw [List.getElem?_map, List.getElem?_map, List.getElem?_modify]
    cases r.tallies[i]? with
    | none => rfl
    | some t => cases c <;> by_cases hi : n.id = i <;> simp_all [Tally.bump]
  exact ⟨⟨0, by simp [hsame]⟩, fun hv => valid_bump hv n c⟩

/-! ## Counting -/

theorem freshCounts_bump (r : Roster) (n : Neighbor) :
    (r.bump n .fresh).freshCounts = r.freshCounts.modify n.id (· + 1) := by
  rw [bump, freshCounts, freshCounts]
  apply List.ext_getElem?
  intro i
  rw [List.getElem?_map, List.getElem?_modify, List.getElem?_modify, List.getElem?_map]
  cases r.tallies[i]? with
  | none => rfl
  | some t => by_cases hi : n.id = i <;> simp [hi, Tally.bump]

/-- What is counted is counted for one neighbor and no other. -/
theorem tally_bump {r : Roster} {n : Neighbor} (hn : r.Known n) (c : Counter) (q : Neighbor) :
    (r.bump n c).tally q = if n.id = q.id then (r.tally q).bump c else r.tally q := by
  rw [tally, tally, bump, List.getD_eq_getElem?_getD, List.getD_eq_getElem?_getD,
    List.getElem?_modify]
  by_cases hq : n.id = q.id
  · have hlt : q.id < r.tallies.length := by
      rw [← hq]
      exact hn
    simp [hq, List.getElem?_eq_getElem hlt]
  · simp [hq]

/-- The new transaction is counted for one neighbor and no other. -/
theorem fresh_tally_bump {r : Roster} {n : Neighbor} (hn : r.Known n) (q : Neighbor) :
    ((r.bump n .fresh).tally q).fresh = (r.tally q).fresh + if n.id = q.id then 1 else 0 := by
  rw [tally_bump hn]
  split <;> rfl

theorem sum_modify_succ : ∀ {l : List Nat} {i : Nat}, i < l.length →
    (l.modify i (· + 1)).sum = l.sum + 1
  | a :: l, 0, _ => by simp; omega
  | a :: l, i + 1, h => by
    rw [List.modify_succ_cons, List.sum_cons, List.sum_cons, sum_modify_succ (by simpa using h)]
    omega

theorem sum_freshCounts_bump {r : Roster} {n : Neighbor} (hn : r.Known n) :
    (r.bump n .fresh).freshCounts.sum = r.freshCounts.sum + 1 := by
  rw [freshCounts_bump]
  apply sum_modify_succ
  rw [length_freshCounts]
  exact hn

end TernaryGossip.Roster
