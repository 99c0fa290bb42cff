import Mathlib.Data.List.Basic
import TernaryGossip.Proofs.Tangle.StoredFacts

/-! # The stored height

    The height of a transaction is one of the facts that are stored about
    it, under a key of its own.  The other facts are read without regard to
    it: metadata that is read with one height differs from metadata that is
    read with another in the height alone.

    So writing a height changes the height of one transaction and nothing
    else that can be loaded. -/

namespace TernaryGossip

/-- The metadata with another height. -/
def Metadata.withHeight (m : Metadata) (v : UInt64) : Metadata := { m with height := v }

theorem Metadata.learn_height (m : Metadata) (v : UInt64) : m.learn (.height v) = m.withHeight v :=
  rfl

theorem Metadata.withHeight_of_eq {m : Metadata} {v : UInt64} (h : m.height = v) :
    m.withHeight v = m := by
  rw [← h]
  rfl

namespace Fact

/-- How a height is read. -/
def heightReader : Reader Fact := return .height (UInt64.ofNat (← Reader.natural 8))

theorem run_heightReader (b : Bytes) :
    Reader.run heightReader b =
      (Reader.run (Reader.natural 8) b).map fun n => .height (UInt64.ofNat n) :=
  Reader.run_bind_pure (Reader.natural 8) _ b

/-- The height is the third of the facts. -/
theorem readers_eq : readers = readers.take 2 ++ (3, heightReader) :: readers.drop 3 := rfl

end Fact

namespace Tables

variable {T T' : Tables} {g h : Hash} {m : Metadata} {t : Transaction} {v : UInt64}

/-! ## The height among the facts -/

/-- The stored height of a hash; zero if none is stored. -/
def readHeight (T : Tables) (h : Hash) : Except StorageError UInt64 :=
  match (T.table .transactionMetadata).get? (Key.ofFact h 3) with
  | none => .ok 0
  | some b => (Reader.run (Reader.natural 8) b).map UInt64.ofNat

/-- The stored height of a hash; zero also if it cannot be read. -/
def height (T : Tables) (h : Hash) : UInt64 :=
  match T.readHeight h with
  | .ok v => v
  | .error _ => 0

/-- The metadata of a stored payload without its height. -/
def factsBesideHeight (T : Tables) (h : Hash) : Except StorageError Metadata :=
  (Transaction.learnAll (.fresh .filled) (T.found h (Fact.readers.take 2))).bind fun m =>
    Transaction.learnAll m (T.found h (Fact.readers.drop 3))

/-- The height is learned by metadata that have none yet. -/
theorem learnAll_heightReader (T : Tables) (h : Hash) (hm : m.withHeight 0 = m) :
    Transaction.learnAll m (T.found h [(3, Fact.heightReader)]) =
      (T.readHeight h).map m.withHeight := by
  rw [found, List.filterMap_cons, List.filterMap_nil, readHeight]
  cases (T.table .transactionMetadata).get? (Key.ofFact h 3) with
  | none => exact congrArg Except.ok hm.symm
  | some b =>
    show Transaction.learnAll m [(Fact.heightReader, b)] =
      ((Reader.run (Reader.natural 8) b).map UInt64.ofNat).map m.withHeight
    rw [Transaction.learnAll, Fact.run_heightReader]
    cases Reader.run (Reader.natural 8) b <;> rfl

/-- All facts are read if the height is and the others are. -/
theorem facts_ok_iff :
    T.facts h = .ok m ↔
      ∃ m₀ v, T.factsBesideHeight h = .ok m₀ ∧ T.readHeight h = .ok v ∧ m = m₀.withHeight v := by
  have hfront : Transaction.Without 3 (T.found h (Fact.readers.take 2)) :=
    without_found (List.take_subset _ _) (by decide) T h
  have hback : Transaction.Without 3 (T.found h (Fact.readers.drop 3)) :=
    without_found (List.drop_subset _ _) (by decide) T h
  have hfacts : T.facts h =
      (Transaction.learnAll (.fresh .filled) (T.found h (Fact.readers.take 2))).bind fun m =>
        (Transaction.learnAll m (T.found h [(3, Fact.heightReader)])).bind fun m =>
          Transaction.learnAll m (T.found h (Fact.readers.drop 3)) := by
    rw [facts, Fact.readers_eq, found_append, ← List.singleton_append (l := Fact.readers.drop 3),
      found_append, Transaction.learnAll_append]
    simp only [Transaction.learnAll_append]
    rfl
  rw [hfacts, factsBesideHeight]
  -- the facts in front leave the height at zero
  have hzero := Transaction.learnAll_learn hfront (f := .height 0) (.fresh .filled)
  rw [Metadata.learn_height] at hzero
  cases hm₁ : Transaction.learnAll (.fresh .filled) (T.found h (Fact.readers.take 2)) with
  | error e => simp [Except.bind]
  | ok m₁ =>
    have hm₁zero : m₁.withHeight 0 = m₁ := by
      rw [show (Metadata.fresh .filled).withHeight 0 = .fresh .filled from rfl, hm₁] at hzero
      exact (Except.ok.inj hzero).symm
    show (Transaction.learnAll m₁ (T.found h [(3, Fact.heightReader)])).bind _ = .ok m ↔
      ∃ m₀ v, Transaction.learnAll m₁ _ = .ok m₀ ∧ _
    rw [learnAll_heightReader T h hm₁zero]
    -- and those behind pass it over
    cases T.readHeight h with
    | error e => simp [Except.bind, Except.map]
    | ok v =>
      show Transaction.learnAll (m₁.withHeight v) _ = .ok m ↔ _
      rw [← m₁.learn_height, Transaction.learnAll_learn (f := .height v) hback]
      simp only [Metadata.learn_height]
      cases Transaction.learnAll m₁ (T.found h (Fact.readers.drop 3)) with
      | error e => simp [Except.map]
      | ok m₀ => simp [Except.map, eq_comm]

theorem height_of_readHeight (hv : T.readHeight h = .ok v) : T.height h = v := by
  rw [height, hv]

theorem Loads.readHeight_eq (ht : T.Loads h t) : T.readHeight h = .ok t.facts.height := by
  obtain ⟨m₀, v, _, hv, hm⟩ := facts_ok_iff.mp ht.facts
  rw [hv, hm]
  rfl

theorem Loads.height_eq (ht : T.Loads h t) : t.facts.height = T.height h :=
  (height_of_readHeight ht.readHeight_eq).symm

/-! ## Writing a height -/

/-- Tables that differ in the stored height of a hash alone. -/
structure HeightSet (T : Tables) (h : Hash) (v : UInt64) (T' : Tables) : Prop where
  alike : T.Alike T'
  frame : ∀ key, key ≠ Key.ofFact h 3 →
    (T'.table .transactionMetadata).get? key = (T.table .transactionMetadata).get? key
  written : T'.readHeight h = .ok v

theorem heightSet_put (T : Tables) (h : Hash) (v : UInt64) :
    T.HeightSet h v
      (T.put .transactionMetadata (Key.ofFact h 3) (Fact.height v).encode) where
  alike part hpart := table_put_of_ne T _ _ hpart
  frame key hkey := by rw [table_put_self, OrderedMap.get?_insert_of_ne _ _ hkey]
  written := by
    have hlt : v.toNat < 256 ^ 8 := v.toNat_lt
    have hread := (Reader.reads_natural hlt).run
    rw [readHeight, table_put_self, OrderedMap.get?_insert_self]
    show (Reader.run (Reader.natural 8) (Encoding.natural 8 v.toNat)).map UInt64.ofNat = .ok v
    rw [hread]
    exact congrArg Except.ok UInt64.ofNat_toNat

/-- A height that is stored already need not be written. -/
theorem heightSet_refl (hv : T.readHeight h = .ok v) : T.HeightSet h v T :=
  ⟨.refl T, fun _ _ => rfl, hv⟩

/-- A height that is learned is stored afterwards; it is not written if it
    was known. -/
theorem heightSet_learning (hv : t.facts.height = v → T.readHeight t.hash = .ok v) :
    T.HeightSet t.hash v (T.changed (t.learning (.height v))) := by
  unfold Transaction.learning
  split
  · next hknows =>
    have hsame : t.facts.withHeight v = t.facts := eq_of_beq hknows
    exact heightSet_refl (hv (congrArg Metadata.height hsame).symm)
  · exact T.heightSet_put t.hash v

namespace HeightSet

variable (hset : T.HeightSet h v T')
include hset

theorem readHeight_of_ne (hg : g ≠ h) : T'.readHeight g = T.readHeight g := by
  have hkey : Key.ofFact g 3 ≠ Key.ofFact h 3 := fun heq => hg (Key.ofFact_inj.mp heq).1
  rw [readHeight, readHeight, hset.frame _ hkey]

theorem height_self : T'.height h = v := height_of_readHeight hset.written

theorem height_of_ne (hg : g ≠ h) : T'.height g = T.height g := by
  rw [height, height, hset.readHeight_of_ne hg]

theorem found_eq {readers : List (UInt8 × Reader Fact)} (htags : ∀ r ∈ readers, r.1 ≠ 3)
    (g : Hash) : T'.found g readers = T.found g readers :=
  found_congr fun r hr => hset.frame _ fun heq => htags r hr (Key.ofFact_inj.mp heq).2

theorem factsBesideHeight_eq (g : Hash) : T'.factsBesideHeight g = T.factsBesideHeight g := by
  have hfront : T'.found g (Fact.readers.take 2) = T.found g (Fact.readers.take 2) :=
    hset.found_eq (by decide) g
  have hback : T'.found g (Fact.readers.drop 3) = T.found g (Fact.readers.drop 3) :=
    hset.found_eq (by decide) g
  rw [factsBesideHeight, factsBesideHeight, hfront, hback]

theorem loads_self (ht : T.Loads h t) : T'.Loads h { t with facts := t.facts.withHeight v } := by
  obtain ⟨m₀, w, hm₀, _, hm⟩ := facts_ok_iff.mp ht.facts
  refine ⟨?_, ht.hash, ht.legible, facts_ok_iff.mpr ⟨m₀, v, ?_, hset.written, ?_⟩⟩
  · rw [hset.alike .transaction (by decide)]
    exact ht.payload
  · rw [hset.factsBesideHeight_eq, hm₀]
  · rw [hm]
    rfl

theorem loads_of_ne (hg : g ≠ h) : T'.Loads g t ↔ T.Loads g t := by
  refine loads_congr hset.alike fun tag => hset.frame _ ?_
  intro heq
  exact hg (Key.ofFact_inj.mp heq).1

end HeightSet

end Tables

/-- Learning a height of a transaction that is in step with the tables
    stores it, and the transaction stays in step. -/
theorem Store.Keeps.learn_height {s : Store} {T : Tables} {t : Transaction} (hs : s.Keeps T)
    (ht : T.Loads t.hash t) (v : UInt64) :
    ∃ b s' T', t.learn s (.height v) = (.ok b, { t with facts := t.facts.withHeight v }, s') ∧
      s'.Keeps T' ∧ T.HeightSet t.hash v T' ∧ (t.facts.height = v → T' = T) := by
  obtain ⟨b, hlearn⟩ := hs.faultFree.learn t (.height v)
  have hset : T.HeightSet t.hash v (T.changed (t.learning (.height v))) :=
    Tables.heightSet_learning fun hsame => hsame ▸ ht.readHeight_eq
  refine ⟨b, _, _, hlearn, hs.changeAll _, hset, fun hsame => ?_⟩
  -- a known height is not written
  have hknows : t.facts.knows (.height v) = true :=
    beq_iff_eq.mpr (Metadata.withHeight_of_eq hsame)
  rw [Transaction.learning, if_pos hknows]
  rfl

end TernaryGossip
