import Mathlib.Logic.Relation
import TernaryGossip.Proofs.Tangle.StoredHeight

/-! # Chains of trunks

    The stored payloads form a forest: each has one trunk, and following the
    trunks one comes to the null hash, or to a hash without a payload, or
    goes round in a circle.  The distance of a hash is the number of steps to
    the null hash, where it is reached.

    The stored heights are sound if each of them follows from the height of
    the trunk.  Where there is no circle, a sound height is the distance. -/

namespace TernaryGossip.Tables

open Relation (ReflTransGen TransGen)

/-- The payload stored under a hash has this trunk. -/
def Trunk (T : Tables) (h g : Hash) : Prop :=
  ∃ payload t, (T.table .transaction).get? (Key.ofHash h) = some payload ∧
    Transaction.ofStored h payload = .ok t ∧ t.trunk = g

/-- A hash is reached from another along trunks, or is the same. -/
def Chain (T : Tables) (h g : Hash) : Prop := ReflTransGen T.Trunk h g

/-- No hash is reached from itself. -/
def Acyclic (T : Tables) : Prop := ∀ h, ¬ TransGen T.Trunk h h

/-- The number of trunks from a hash to the null hash. -/
inductive Distance (T : Tables) : Hash → Nat → Prop
  /-- The null hash is there. -/
  | null {h : Hash} (hnull : h.isNull = true) : Distance T h 0
  /-- A transaction is one further than its trunk. -/
  | above {h g : Hash} {n : Nat} (hnull : h.isNull = false) (htrunk : T.Trunk h g)
      (hg : Distance T g n) : Distance T h (n + 1)

/-- Every stored height that is not zero is that of a stored payload: one if
    the trunk is null, and else one more than that of the trunk, which is
    not zero either. -/
def Sound (T : Tables) : Prop :=
  ∀ h, T.height h ≠ 0 → ∃ g, T.Trunk h g ∧
    if g.isNull then T.height h = 1
    else T.height g ≠ 0 ∧ (T.height h).toNat = (T.height g).toNat + 1

variable {T T' : Tables} {g h k : Hash} {m n : Nat} {t : Transaction}

/-! ## Trunks -/

theorem Trunk.unique (hg : T.Trunk h g) (hk : T.Trunk h k) : g = k := by
  obtain ⟨payload, t, hpayload, hread, rfl⟩ := hg
  obtain ⟨payload', t', hpayload', hread', rfl⟩ := hk
  obtain rfl : payload = payload' := Option.some.inj (hpayload.symm.trans hpayload')
  rw [Except.ok.inj (hread.symm.trans hread')]

theorem Trunk.stored (hg : T.Trunk h g) : T.Stored h := by
  obtain ⟨payload, _, hpayload, _⟩ := hg
  rw [Stored, OrderedMap.contains, hpayload]
  rfl

theorem Loads.trunk (ht : T.Loads h t) : T.Trunk h t.trunk := by
  have hread : Transaction.ofStored h t.payload = .ok { t with facts := .fresh .filled } :=
    Transaction.ofStored_ok_iff.mpr ⟨ht.hash, rfl, rfl, ht.legible⟩
  exact ⟨t.payload, _, ht.payload, hread, rfl⟩

/-- Metadata have no influence on trunks. -/
theorem Alike.trunk_eq (hT : T.Alike T') : T'.Trunk = T.Trunk := by
  unfold Trunk
  rw [hT .transaction (by decide)]

theorem Alike.acyclic (hT : T.Alike T') (hacyclic : T.Acyclic) : T'.Acyclic := by
  unfold Acyclic
  rw [hT.trunk_eq]
  exact hacyclic

theorem Alike.distance (hT : T.Alike T') (hn : T.Distance h n) : T'.Distance h n := by
  induction hn with
  | null hnull => exact .null hnull
  | above hnull htrunk _ ih => exact .above hnull (by rw [hT.trunk_eq]; exact htrunk) ih

/-- Storing a new transaction leaves the trunks of all others. -/
theorem Trunk.puts (hg : T.Trunk h g) (hnew : ¬ T.Stored t.hash) :
    (T.putAll t.puts).Trunk h g := by
  have hne : Key.ofHash h ≠ Key.ofHash t.hash := by
    intro heq
    rw [Key.ofHash_inj] at heq
    exact hnew (heq ▸ hg.stored)
  obtain ⟨payload, u, hpayload, hread, rfl⟩ := hg
  refine ⟨payload, u, ?_, hread, rfl⟩
  rw [Transaction.table_transaction_puts, OrderedMap.get?_insert_of_ne _ _ hne, hpayload]

/-! ## Distances -/

theorem Distance.unique (hm : T.Distance h m) (hn : T.Distance h n) : m = n := by
  induction hm generalizing n with
  | null hnull =>
    cases hn with
    | null => rfl
    | above hnull' => rw [hnull] at hnull'; cases hnull'
  | above hnull htrunk _ ih =>
    cases hn with
    | null hnull' => rw [hnull] at hnull'; cases hnull'
    | above _ htrunk' hg' =>
      rw [htrunk'.unique htrunk] at hg'
      rw [ih hg']

theorem Distance.reaches (hn : T.Distance h n) : T.Chain h Hash.null := by
  induction hn with
  | null hnull =>
    rw [Hash.isNull_iff.mp hnull]
    exact .refl
  | above _ htrunk _ ih => exact .head htrunk ih

/-- Where there is no circle, the null hash is not left again to a hash that
    leads to it. -/
theorem Acyclic.not_isNull (hacyclic : T.Acyclic) (htrunk : T.Trunk h g) (hn : T.Distance g n) :
    h.isNull = false := by
  by_contra hnull
  rw [Bool.not_eq_false, Hash.isNull_iff] at hnull
  exact hacyclic h (.head' htrunk (hnull ▸ hn.reaches))

/-! ## Sound heights -/

namespace Sound

variable (hsound : T.Sound)
include hsound

/-- A sound height that is not zero is the distance. -/
theorem distance (hacyclic : T.Acyclic) (hh : T.height h ≠ 0) :
    T.Distance h (T.height h).toNat := by
  -- down the trunk the height gets less by one at every step
  induction hn : (T.height h).toNat generalizing h with
  | zero => exact absurd (UInt64.toNat_inj.mp hn) hh
  | succ n ih =>
    obtain ⟨g, htrunk, hcase⟩ := hsound h hh
    by_cases hg : g.isNull = true
    · rw [if_pos hg] at hcase
      rw [hcase] at hn
      obtain rfl : n = 0 := by simpa using hn.symm
      have hnull : T.Distance g 0 := .null hg
      exact .above (hacyclic.not_isNull htrunk hnull) htrunk hnull
    · rw [if_neg hg] at hcase
      have hgn : (T.height g).toNat = n := by omega
      have hdistance := ih hcase.1 hgn
      exact .above (hacyclic.not_isNull htrunk hdistance) htrunk hdistance

theorem height_null (hacyclic : T.Acyclic) (hnull : h.isNull = true) : T.height h = 0 := by
  by_contra hh
  have hzero := (hsound.distance hacyclic hh).unique (.null hnull)
  exact hh (UInt64.toNat_inj.mp hzero)

/-- The height of a transaction agrees with the distance of its trunk. -/
theorem height_of_trunk (hacyclic : T.Acyclic) (htrunk : T.Trunk h g) (hg : T.Distance g n)
    (hh : T.height h ≠ 0) : (T.height h).toNat = n + 1 :=
  (hsound.distance hacyclic hh).unique (.above (hacyclic.not_isNull htrunk hg) htrunk hg)

/-- Below a height that is sound, all heights are distances. -/
theorem height_of_chain (hacyclic : T.Acyclic) (hchain : T.Chain h g)
    (hh : h.isNull = true ∨ T.height h ≠ 0) (hn : T.Distance g n) : (T.height g).toNat = n := by
  induction hchain using ReflTransGen.head_induction_on with
  | refl =>
    rcases hh with hnull | hh
    · rw [hn.unique (.null hnull), hsound.height_null hacyclic hnull]
      rfl
    · exact (hsound.distance hacyclic hh).unique hn
  | @head h k htrunk hchain ih =>
    rcases hh with hnull | hh
    · -- the null hash would be reached from itself
      rw [Hash.isNull_iff.mp hnull] at htrunk
      exact absurd (.head' htrunk (hchain.trans hn.reaches)) (hacyclic Hash.null)
    · obtain ⟨k', htrunk', hcase⟩ := hsound h hh
      rw [htrunk'.unique htrunk] at hcase
      split at hcase
      · next hnull => exact ih (.inl hnull)
      · exact ih (.inr hcase.1)

/-- Nothing is known beforehand of the height of a new transaction. -/
theorem puts (hnew : ¬ T.Stored t.hash) : (T.putAll t.puts).Sound := by
  have hheight : ∀ h, (T.putAll t.puts).height h = T.height h := by
    intro h
    rw [height, height, readHeight, readHeight, Transaction.table_metadata_puts]
  intro h hh
  rw [hheight] at hh ⊢
  obtain ⟨g, htrunk, hcase⟩ := hsound h hh
  refine ⟨g, htrunk.puts hnew, ?_⟩
  rw [hheight]
  exact hcase

/-- A height may be written where there was none, if it follows from the
    height of the trunk.  No other height was built on the missing one. -/
theorem heightSet {v : UInt64} (hset : T.HeightSet h v T') (hzero : T.height h = 0)
    (hv : v ≠ 0 → ∃ g, T.Trunk h g ∧ if g.isNull then v = 1
      else T.height g ≠ 0 ∧ v.toNat = (T.height g).toNat + 1) : T'.Sound := by
  have hkeep : ∀ {k}, T.height k ≠ 0 → T'.height k = T.height k := by
    intro k hk
    refine hset.height_of_ne ?_
    rintro rfl
    exact hk hzero
  intro k hk
  rw [hset.alike.trunk_eq]
  by_cases hkh : k = h
  · subst hkh
    rw [hset.height_self] at hk ⊢
    obtain ⟨g, htrunk, hcase⟩ := hv hk
    refine ⟨g, htrunk, ?_⟩
    split at hcase
    · next hg => rwa [if_pos hg]
    · next hg => rwa [if_neg hg, hkeep hcase.1]
  · rw [hset.height_of_ne hkh] at hk ⊢
    obtain ⟨g, htrunk, hcase⟩ := hsound k hk
    refine ⟨g, htrunk, ?_⟩
    split at hcase
    · next hg => rwa [if_pos hg]
    · next hg => rwa [if_neg hg, hkeep hcase.1]

end Sound

end TernaryGossip.Tables
