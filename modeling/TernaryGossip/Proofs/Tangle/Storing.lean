import TernaryGossip.Proofs.Store.Changes
import TernaryGossip.Proofs.Store.Prefix
import TernaryGossip.Tangle.Record

/-! # Storing transactions

    A hash is stored when its payload is in the partition of transactions.
    Storing a transaction with success makes its hash stored, and neither
    storing nor learning ever makes a stored hash unknown again.

    Over fault-free providers, storing a new transaction is one change of
    the store, storing a known one changes nothing, and learning a fact
    writes to the metadata alone, or not at all.  If there is one provider,
    a new transaction adds its hash and its two entries among the approvers
    to its tables. -/

namespace TernaryGossip

/-- The payload of a hash is in the tables. -/
def Tables.Stored (T : Tables) (h : Hash) : Prop :=
  (T.table .transaction).contains (Key.ofHash h) = true

instance (T : Tables) (h : Hash) : Decidable (T.Stored h) :=
  inferInstanceAs (Decidable (_ = true))

theorem Tables.get?_of_not_stored {T : Tables} {h : Hash} (hnew : ¬ T.Stored h) :
    (T.table .transaction).get? (Key.ofHash h) = none :=
  Option.not_isSome_iff_eq_none.mp hnew

/-- Tables that differ in the metadata alone. -/
def Tables.Alike (T T' : Tables) : Prop :=
  ∀ part, part ≠ .transactionMetadata → T'.table part = T.table part

namespace Tables.Alike

theorem refl (T : Tables) : T.Alike T := fun _ _ => rfl

theorem trans {T T' T'' : Tables} (h : T.Alike T') (h' : T'.Alike T'') : T.Alike T'' :=
  fun part hpart => (h' part hpart).trans (h part hpart)

theorem stored_iff {T T' : Tables} (h : T.Alike T') (g : Hash) : T'.Stored g ↔ T.Stored g := by
  unfold Stored
  rw [h .transaction (by decide)]

end Tables.Alike

/-- The payload of a hash is in some provider. -/
def Store.Stored (s : Store) (h : Hash) : Prop := s.Holds .transaction (Key.ofHash h)

instance (s : Store) (h : Hash) : Decidable (s.Stored h) :=
  inferInstanceAs (Decidable (∃ p ∈ s.providers, (_ : Bool) = true))

namespace Transaction

/-! ## Any providers -/

theorem stored_of_store_ok {t : Transaction} {s : Store} {b : Bool}
    (h : (t.store s).1 = .ok b) : (t.store s).2.Stored t.hash := by
  unfold store at h ⊢
  split at h
  · cases h
  · next hs => exact Store.holds_of_contains_ok hs
  · -- the payload is one of the records that are written
    have hput : (⟨.transaction, Key.ofHash t.hash, t.payload⟩ : Put) ∈ t.puts :=
      List.mem_cons_self
    exact Store.holds_of_saveAll_ok h hput

theorem stored_store (t : Transaction) {s : Store} {h : Hash} (hs : s.Stored h) :
    (t.store s).2.Stored h := by
  unfold store
  split
  · exact hs
  · exact hs
  · exact Store.holds_saveAll _ hs

theorem stored_learn (t : Transaction) (f : Fact) {s : Store} {h : Hash} (hs : s.Stored h) :
    (t.learn s f).2.2.Stored h := by
  have hsave := Store.holds_save .transactionMetadata (Key.ofFact t.hash f.tag) f.encode hs
  unfold learn
  split
  · exact hs
  · split
    · next hq => rw [hq] at hsave; exact hsave
    · next hq => rw [hq] at hsave; exact hsave

/-- Learning changes nothing of a transaction but its metadata. -/
theorem learn_transaction (t : Transaction) (s : Store) (f : Fact) :
    (t.learn s f).2.1 = { t with facts := (t.learn s f).2.1.facts } := by
  unfold learn
  split
  · rfl
  · split <;> rfl

/-! ## The tables -/

theorem table_transaction_puts (t : Transaction) (T : Tables) :
    (T.putAll t.puts).table .transaction =
      (T.table .transaction).insert (Key.ofHash t.hash) t.payload := by
  simp [puts]

theorem table_metadata_puts (t : Transaction) (T : Tables) :
    (T.putAll t.puts).table .transactionMetadata = T.table .transactionMetadata := by
  simp [puts]

theorem stored_puts (t : Transaction) (T : Tables) (h : Hash) :
    (T.putAll t.puts).Stored h ↔ h = t.hash ∨ T.Stored h := by
  unfold Tables.Stored
  rw [table_transaction_puts, OrderedMap.contains_insert, Key.ofHash_inj]

theorem size_puts {t : Transaction} {T : Tables} (h : ¬ T.Stored t.hash) :
    ((T.putAll t.puts).table .transaction).size = (T.table .transaction).size + 1 := by
  rw [table_transaction_puts]
  exact OrderedMap.size_insert_of_not_contains _ (Bool.eq_false_iff.mpr h)

/-- The entries among the approvers once a transaction is stored. -/
theorem approvers_puts (t : Transaction) (T : Tables) (key : Bytes) :
    ((T.putAll t.puts).table .approvers).contains key = true ↔
      key = Key.ofReference t.trunk t.hash ∨ key = Key.ofReference t.branch t.hash ∨
        (T.table .approvers).contains key = true := by
  have htable : (T.putAll t.puts).table .approvers =
      ((T.table .approvers).insert (Key.ofReference t.trunk t.hash) []).insert
        (Key.ofReference t.branch t.hash) [] := by
    simp [puts]
  rw [htable, OrderedMap.contains_insert, OrderedMap.contains_insert]
  exact or_left_comm

end Transaction

/-! ## Fault-free providers -/

/-- What is written when a transaction learns a fact: nothing if it knows it. -/
def Transaction.learning (t : Transaction) (f : Fact) : List Change :=
  if t.facts.knows f then []
  else [.save .transactionMetadata (Key.ofFact t.hash f.tag) f.encode]

/-- Learning leaves every partition but the metadata alone. -/
theorem Tables.alike_learning (T : Tables) (t : Transaction) (f : Fact) :
    T.Alike (T.changed (t.learning f)) := by
  intro part hpart
  unfold Transaction.learning
  split
  · rfl
  · exact Tables.table_put_of_ne T _ _ hpart

namespace Store

/-- Every provider says whether it has a record, whatever else fails. -/
def Answering (s : Store) : Prop :=
  ∀ p ∈ s.providers, ∀ attempts, p.faults attempts .contains = false

theorem Answering.isStored {s : Store} (h : s.Answering) (g : Hash) :
    Transaction.isStored s g = s.asking (.ok (decide (s.Stored g))) := by
  have hask : ∀ p ∈ s.providers, p.contains .transaction (Key.ofHash g) =
      .ok ((p.tables.table .transaction).contains (Key.ofHash g)) := by
    intro p hp
    rw [Provider.contains, Provider.reading, Provider.fails, h p hp]
    rfl
  rw [Transaction.isStored, Store.contains, anyTrue_of_forall hask]
  congr 2
  rw [Bool.eq_iff_iff, List.any_eq_true, decide_eq_true_iff]
  exact Iff.rfl

namespace FaultFree

variable {s : Store} (h : s.FaultFree)
include h

theorem isStored (g : Hash) : Transaction.isStored s g = .ok (decide (s.Stored g)) := by
  have hanswering : s.Answering := fun p hp attempts => (h.faultFree p hp).never_fails attempts _
  rw [hanswering.isStored, h.asking]

theorem store_known {t : Transaction} (hk : s.Stored t.hash) : t.store s = (.ok false, s) := by
  simp [Transaction.store, h.isStored, hk]

theorem store_new {t : Transaction} (hk : ¬ s.Stored t.hash) :
    t.store s = (.ok true, s.changeAll [.saveAll t.puts]) := by
  simp only [Transaction.store, h.isStored, hk, decide_false]
  exact h.change_eq (.saveAll t.puts)

theorem learn (t : Transaction) (f : Fact) :
    ∃ b, t.learn s f =
      (.ok b, { t with facts := t.facts.learn f }, s.changeAll (t.learning f)) := by
  unfold Transaction.learn Transaction.learning
  by_cases hknows : t.facts.knows f = true
  · -- a fact that is known already is not written
    have hsame : t.facts.learn f = t.facts := eq_of_beq hknows
    refine ⟨false, ?_⟩
    simp only [hknows, if_true, hsame]
    rfl
  · have hsave : s.save .transactionMetadata (Key.ofFact t.hash f.tag) f.encode = (.ok true, _) :=
      h.change_eq (.save .transactionMetadata (Key.ofFact t.hash f.tag) f.encode)
    refine ⟨true, ?_⟩
    simp only [hknows, hsave]
    rfl

theorem approvers (t : Transaction) : ∃ hs, t.approvers s = .ok hs := by
  rw [Transaction.approvers, Transaction.referrers, h.keys]
  exact ⟨_, rfl⟩

end FaultFree

end Store

/-! ## One fault-free provider -/

namespace Store.Keeps

variable {s : Store} {T : Tables} (h : s.Keeps T)
include h

theorem stored_iff (g : Hash) : s.Stored g ↔ T.Stored g := h.holds_iff _ _

theorem isStored (g : Hash) : Transaction.isStored s g = .ok (decide (T.Stored g)) := by
  rw [h.faultFree.isStored]
  exact congrArg Except.ok (decide_eq_decide.mpr (h.stored_iff g))

theorem store_known {t : Transaction} (hk : T.Stored t.hash) : t.store s = (.ok false, s) :=
  h.faultFree.store_known ((h.stored_iff _).mpr hk)

theorem store_new {t : Transaction} (hk : ¬ T.Stored t.hash) :
    ∃ s', t.store s = (.ok true, s') ∧ s'.Keeps (T.putAll t.puts) := by
  refine ⟨_, h.faultFree.store_new fun hs => hk ((h.stored_iff _).mp hs), ?_⟩
  rw [← Tables.changed_saveAll]
  exact h.changeAll _

/-- A transaction is known and stays as it is, or it is new and stored. -/
theorem store_cases (t : Transaction) :
    (T.Stored t.hash ∧ t.store s = (.ok false, s)) ∨
      (¬ T.Stored t.hash ∧ ∃ s', t.store s = (.ok true, s') ∧ s'.Keeps (T.putAll t.puts)) := by
  by_cases hk : T.Stored t.hash
  · exact .inl ⟨hk, h.store_known hk⟩
  · exact .inr ⟨hk, h.store_new hk⟩

/-- Storing never fails. -/
theorem store_ok (t : Transaction) : ∃ b, (t.store s).1 = .ok b := by
  rcases h.store_cases t with ⟨_, hans⟩ | ⟨_, s', hans, _⟩
  · exact ⟨false, by rw [hans]⟩
  · exact ⟨true, by rw [hans]⟩

theorem approvers (t : Transaction) :
    t.approvers s = .ok
      ((Provider.keysFrom (T.table .approvers) t.hash.bytes).filterMap Key.referrer?) := by
  simp [Transaction.approvers, Transaction.referrers, h.keys, Except.map]

end Store.Keeps

end TernaryGossip
