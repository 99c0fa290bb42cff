import TernaryGossip.Proofs.Tangle.Storing

/-! # Tables written by storing

    When nothing but storing writes the transactions and their approvers,
    both partitions can be read off the list of the transactions stored: the
    one holds their hashes, the other their references to their parents.
    Other partitions may be written by anything.

    So the scan for keys that nothing refers to finds the stored transactions
    that are nobody's trunk or branch. -/

namespace TernaryGossip

/-- The transactions and approvers of the tables were written by storing
    these transactions, in this order, and by nothing else. -/
inductive Tables.Written : Tables → List Transaction → Prop
  /-- Nothing is stored yet. -/
  | empty : Written .empty []
  /-- One more is stored. -/
  | store {T : Tables} {ts : List Transaction} {t : Transaction} (h : T.Written ts)
      (hnew : ¬ T.Stored t.hash) : Written (T.putAll t.puts) (ts ++ [t])
  /-- Something is written elsewhere. -/
  | elsewhere {T T' : Tables} {ts : List Transaction} (h : T.Written ts)
      (htransactions : T'.table .transaction = T.table .transaction)
      (happrovers : T'.table .approvers = T.table .approvers) : Written T' ts

/-- The hash of a stored transaction to which no stored one refers. -/
def Frontier (ts : List Transaction) (h : Hash) : Prop :=
  (∃ t ∈ ts, t.hash = h) ∧ ∀ u ∈ ts, u.trunk ≠ h ∧ u.branch ≠ h

theorem frontier_concat (ts : List Transaction) (t : Transaction) (h : Hash) :
    Frontier (ts ++ [t]) h ↔
      ((∃ u ∈ ts, u.hash = h) ∨ t.hash = h) ∧ (∀ u ∈ ts, u.trunk ≠ h ∧ u.branch ≠ h) ∧
        t.trunk ≠ h ∧ t.branch ≠ h := by
  rw [Frontier, List.forall_mem_append, List.forall_mem_singleton]
  simp only [List.mem_append, List.mem_singleton, or_and_right, exists_or, exists_eq_left]

namespace Tables.Written

variable {T : Tables} {ts : List Transaction}

theorem alike {T' : Tables} (h : T.Written ts) (hT : T.Alike T') : T'.Written ts :=
  .elsewhere h (hT .transaction (by decide)) (hT .approvers (by decide))

/-! ## The two partitions -/

theorem transactions_iff (h : T.Written ts) (key : Bytes) :
    (T.table .transaction).contains key = true ↔ ∃ t ∈ ts, key = Key.ofHash t.hash := by
  induction h with
  | empty => simp [Tables.table, OrderedMap.contains]
  | @store T ts t _ _ ih =>
    rw [Transaction.table_transaction_puts, OrderedMap.contains_insert, ih]
    simp only [List.mem_append, List.mem_singleton, or_and_right, exists_or, exists_eq_left]
    exact or_comm
  | elsewhere _ htransactions _ ih => rw [htransactions, ih]

theorem approvers_iff (h : T.Written ts) (key : Bytes) :
    (T.table .approvers).contains key = true ↔
      ∃ t ∈ ts, key = Key.ofReference t.trunk t.hash ∨ key = Key.ofReference t.branch t.hash := by
  induction h with
  | empty => simp [Tables.table, OrderedMap.contains]
  | @store T ts t _ _ ih =>
    rw [Transaction.approvers_puts, ih]
    simp only [List.mem_append, List.mem_singleton, or_and_right, exists_or, exists_eq_left]
    rw [← or_assoc]
    exact or_comm
  | elsewhere _ _ happrovers ih => rw [happrovers, ih]

theorem stored_iff (h : T.Written ts) (g : Hash) : T.Stored g ↔ ∃ t ∈ ts, t.hash = g := by
  rw [Tables.Stored, h.transactions_iff]
  simp only [Key.ofHash_inj, eq_comm]

/-! ## References -/

/-- The scan for references to a hash finds none if it is nobody's trunk or
    branch. -/
theorem keysFrom_eq_nil (h : T.Written ts) (g : Hash) :
    Provider.keysFrom (T.table .approvers) g.bytes = [] ↔
      ∀ u ∈ ts, u.trunk ≠ g ∧ u.branch ≠ g := by
  rw [Provider.keysFrom_eq_nil]
  constructor
  · intro hnone u hu
    constructor
    · intro htrunk
      exact hnone _ ((h.approvers_iff _).mpr ⟨u, hu, .inl rfl⟩)
        ((Key.prefix_ofReference g u.trunk u.hash).mpr htrunk)
    · intro hbranch
      exact hnone _ ((h.approvers_iff _).mpr ⟨u, hu, .inr rfl⟩)
        ((Key.prefix_ofReference g u.branch u.hash).mpr hbranch)
  · intro hnone key hkey hbegins
    obtain ⟨u, hu, rfl | rfl⟩ := (h.approvers_iff key).mp hkey
    · exact (hnone u hu).1 ((Key.prefix_ofReference g u.trunk u.hash).mp hbegins)
    · exact (hnone u hu).2 ((Key.prefix_ofReference g u.branch u.hash).mp hbegins)

/-- Every key among the approvers names a referrer, so none is overlooked. -/
theorem referrers_eq_nil (h : T.Written ts) (g : Hash) :
    (Provider.keysFrom (T.table .approvers) g.bytes).filterMap Key.referrer? = [] ↔
      ∀ u ∈ ts, u.trunk ≠ g ∧ u.branch ≠ g := by
  rw [← h.keysFrom_eq_nil, List.filterMap_eq_nil_iff, List.eq_nil_iff_forall_not_mem]
  refine forall_congr' fun key => ⟨fun hnone hkey => ?_, fun hnone hkey => absurd hkey hnone⟩
  -- a key that is found has the length of two hashes, so a referrer is read from it
  obtain ⟨hcontains, _⟩ := (Provider.mem_keysFrom _ _ _).mp hkey
  obtain ⟨u, _, rfl | rfl⟩ := (h.approvers_iff key).mp hcontains
  · have := hnone hkey
    rw [Key.referrer?_ofReference] at this
    cases this
  · have := hnone hkey
    rw [Key.referrer?_ofReference] at this
    cases this

/-- The scan for keys that nothing refers to finds the frontier. -/
theorem mem_unreferencedKeys (h : T.Written ts) (key : Bytes) :
    key ∈ Provider.unreferencedKeys T .transaction ↔ ∃ g, key = Key.ofHash g ∧ Frontier ts g := by
  have hscan : Provider.unreferencedKeys T .transaction =
      (T.table .transaction).keys.filter fun key =>
        (Provider.keysFrom (T.table .approvers) key).isEmpty := rfl
  rw [hscan, List.mem_filter, ← OrderedMap.contains_iff_mem_keys, h.transactions_iff]
  constructor
  · rintro ⟨⟨t, ht, rfl⟩, hfree⟩
    exact ⟨t.hash, rfl, ⟨t, ht, rfl⟩, (h.keysFrom_eq_nil t.hash).mp (List.isEmpty_iff.mp hfree)⟩
  · -- the key of a hash of the frontier is a key of the table that nothing begins with
    rintro ⟨g, rfl, ⟨t, ht, rfl⟩, hfree⟩
    exact ⟨⟨t, ht, rfl⟩, List.isEmpty_iff.mpr ((h.keysFrom_eq_nil t.hash).mpr hfree)⟩

end Tables.Written

end TernaryGossip
