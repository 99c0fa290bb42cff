import TernaryGossip.Proofs.Store.Overlay
import TernaryGossip.Proofs.Store.Snapshots
import TernaryGossip.Proofs.Tangle.Referrers
import TernaryGossip.Proofs.Tangle.Trunk

/-! # Tables that a store shows

    A store of fault-free providers, in whatever number and with whatever
    they held at first, looks like one table for each partition: the record
    under a key is that of the first provider that has one.  Laying the
    tables of the providers over each other gives the tables that the store
    shows.

    Storing and learning then do to these tables what they do to those of a
    single provider.  So what is proved of tables that a store shows holds
    of every store of fault-free providers. -/

namespace TernaryGossip

/-! ## Tables over tables -/

namespace Tables

/-- The records of some tables, and behind them those of others. -/
def inFrontOf (T U : Tables) : Tables :=
  .ofList (Partition.all.map fun part =>
    (part, (T.table part).entries.foldl (fun m e => m.insert e.1 e.2) (U.table part)))

theorem table_inFrontOf (T U : Tables) (part : Partition) :
    (T.inFrontOf U).table part =
      (T.table part).entries.foldl (fun m e => m.insert e.1 e.2) (U.table part) := by
  have hkeys : ((Partition.all.map fun part =>
      (part, (T.table part).entries.foldl (fun m e => m.insert e.1 e.2) (U.table part))).map
        Prod.fst).Nodup := by
    rw [List.map_map, show Prod.fst ∘ _ = id from rfl, List.map_id]
    decide
  rw [table, inFrontOf, (OrderedMap.get?_ofList_iff_mem hkeys part _).mpr
    (List.mem_map.mpr ⟨part, part.mem_all, rfl⟩), Option.getD_some]

theorem get?_inFrontOf (T U : Tables) (part : Partition) (key : Bytes) :
    ((T.inFrontOf U).table part).get? key =
      ((T.table part).get? key).or ((U.table part).get? key) := by
  have hself : OrderedMap.ofList (T.table part).entries = T.table part :=
    OrderedMap.ofList_of_perm (.refl _)
  rw [table_inFrontOf, OrderedMap.get?_foldl_insert, ← OrderedMap.get?_ofList, hself]

end Tables

/-! ## What a store shows -/

namespace Store

/-- A store of fault-free providers finds under every key what these tables
    have there. -/
structure Shows (s : Store) (T : Tables) : Prop where
  faultFree : s.FaultFree
  held : ∀ part key, s.held part key = (T.table part).get? key

/-- The tables of all providers, laid over each other. -/
def overlay (s : Store) : Tables :=
  s.providers.foldr (fun p T => p.tables.inFrontOf T) .empty

theorem FaultFree.shows_overlay {s : Store} (h : s.FaultFree) : s.Shows s.overlay := by
  refine ⟨h, fun part key => ?_⟩
  unfold Store.held overlay
  induction s.providers with
  | nil => rfl
  | cons p ps ih =>
    rw [List.findSome?_cons, List.foldr_cons, Tables.get?_inFrontOf, ← ih]
    cases (p.tables.table part).get? key <;> rfl

theorem Keeps.shows {s : Store} {T : Tables} (h : s.Keeps T) : s.Shows T where
  faultFree := h.faultFree
  held part key :=
    Except.ok.inj ((h.faultFree.get_eq_held part key).symm.trans (h.get part key))

namespace Shows

variable {s : Store} {T : Tables} {t : Transaction} (h : s.Shows T)
include h

theorem gets : s.Gets T := by
  intro part key
  rw [h.faultFree.get_eq_held, h.held]

theorem stored_iff (g : Hash) : s.Stored g ↔ T.Stored g := by
  rw [Tables.Stored, OrderedMap.contains, ← h.held, ← any_contains, List.any_eq_true]
  rfl

/-- The tables that a store shows are those of all its providers. -/
theorem table_overlay (part : Partition) : s.overlay.table part = T.table part := by
  apply OrderedMap.ext_get?
  intro key
  rw [← h.held, h.faultFree.shows_overlay.held]

theorem height_overlay (g : Hash) : s.overlay.height g = T.height g := by
  rw [Tables.height, Tables.height, Tables.readHeight, Tables.readHeight, h.table_overlay]

theorem loads_overlay {g : Hash} {u : Transaction} : s.overlay.Loads g u ↔ T.Loads g u := by
  apply Tables.loads_congr
  · exact fun part _ => h.table_overlay part
  · exact fun tag => by rw [h.table_overlay]

theorem changeAll (cs : List Change) : (s.changeAll cs).Shows (T.changed cs) where
  faultFree := (h.faultFree.changeAll cs).2
  held part key := by
    rw [h.faultFree.held_changeAll, Tables.get?_changed, h.held]

theorem store_known (hknown : T.Stored t.hash) : t.store s = (.ok false, s) :=
  h.faultFree.store_known ((h.stored_iff _).mpr hknown)

theorem store_new (hnew : ¬ T.Stored t.hash) :
    ∃ s', t.store s = (.ok true, s') ∧ s'.Shows (T.putAll t.puts) := by
  refine ⟨_, h.faultFree.store_new fun hs => hnew ((h.stored_iff _).mp hs), ?_⟩
  rw [← Tables.changed_saveAll]
  exact h.changeAll _

/-- Learning a height stores it, if the height of the transaction is not
    this one or is the stored one. -/
theorem learn_height {v : UInt64} (hv : t.facts.height = v → T.readHeight t.hash = .ok v) :
    ∃ b s' T', t.learn s (.height v) = (.ok b, { t with facts := t.facts.withHeight v }, s') ∧
      s'.Shows T' ∧ T.HeightSet t.hash v T' := by
  obtain ⟨b, hlearn⟩ := h.faultFree.learn t (.height v)
  exact ⟨b, _, _, hlearn, h.changeAll _, Tables.heightSet_learning hv⟩

omit h

/-- Storing transactions writes the first of every hash that was not stored,
    and no metadata. -/
theorem storeAll (h : s.Shows T) (ts : List Transaction) :
    ∃ T', (Transaction.storeAll s ts).Shows T' ∧
      T'.table .transactionMetadata = T.table .transactionMetadata ∧
      ∀ g, (T'.table .transaction).get? (Key.ofHash g) =
        ((T.table .transaction).get? (Key.ofHash g)).or
          ((Transaction.firstOf ts g).map (·.payload)) := by
  induction ts generalizing s T with
  | nil => exact ⟨T, h, rfl, fun g => Option.or_none.symm⟩
  | cons t ts ih =>
    have hfirst : ∀ g, Transaction.firstOf (t :: ts) g =
        if t.hash = g then some t else Transaction.firstOf ts g := by
      intro g
      by_cases hg : t.hash = g
      · simp [Transaction.firstOf, hg]
      · simp [Transaction.firstOf, hg]
    by_cases hknown : T.Stored t.hash
    · obtain ⟨T', hs', hmetadata, hpayload⟩ := ih h
      refine ⟨T', ?_, hmetadata, fun g => ?_⟩
      · show (Transaction.storeAll (t.store s).2 ts).Shows T'
        rw [h.store_known hknown]
        exact hs'
      · rw [hpayload, hfirst]
        by_cases hg : t.hash = g
        · -- what was stored under this hash stays
          obtain ⟨b, hb⟩ := Option.isSome_iff_exists.mp (hg ▸ hknown)
          rw [hb, Option.some_or, Option.some_or]
        · rw [if_neg hg]
    · obtain ⟨s₁, hstore, hs₁⟩ := h.store_new hknown
      obtain ⟨T', hs', hmetadata, hpayload⟩ := ih hs₁
      refine ⟨T', ?_, ?_, fun g => ?_⟩
      · show (Transaction.storeAll (t.store s).2 ts).Shows T'
        rw [hstore]
        exact hs'
      · rw [hmetadata, Transaction.table_metadata_puts]
      · rw [hpayload, hfirst, Transaction.table_transaction_puts]
        by_cases hg : t.hash = g
        · subst hg
          rw [OrderedMap.get?_insert_self, Tables.get?_of_not_stored hknown, if_pos rfl]
          rfl
        · have hkey : Key.ofHash g ≠ Key.ofHash t.hash := fun heq => hg (Key.ofHash_inj.mp heq).symm
          rw [OrderedMap.get?_insert_of_ne _ _ hkey, if_neg hg]

end Shows

end Store

end TernaryGossip
