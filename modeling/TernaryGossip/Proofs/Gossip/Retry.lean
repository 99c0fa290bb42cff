import TernaryGossip.Proofs.Gossip.Accepted
import TernaryGossip.Proofs.Store.Overlay
import TernaryGossip.Proofs.Tangle.Failing

/-! # Storing again what could not be stored

    A transaction whose storing fails is dropped, and its hash is not
    remembered as stored.  It may arrive once more when the providers work
    again.  If no provider had taken it, it is then stored for the first
    time, and everything follows that follows a first store.  If some
    provider had taken it, it counts as stored already, and nothing follows:
    its arrival is not stamped, its sender is not credited, the tips stay as
    they are, and it is not passed on. -/

namespace TernaryGossip

/-- The time of an arrival tells nothing about its sender. -/
theorem Metadata.knows_sender (m : Metadata) (now : Int64) (sender : String) :
    (m.learn (.arrival now)).knows (.sender sender) = m.knows (.sender sender) := by
  rw [Bool.eq_iff_iff, Metadata.knows, Metadata.knows, beq_iff_eq, beq_iff_eq]
  cases m
  simp [Metadata.learn]

namespace Node

/-- A received transaction is the next to be stored. -/
structure NextToStore (n : Node) (r : Received) : Prop where
  first : ∃ received, n.received.pop? = some (r, received)
  unseen : n.seen.containsHash r.transaction.hash = false

/-- A transaction is stored for the first time, with everything that follows:
    the stamp of its arrival, the credit of its sender, the tips, the parents
    that are asked for, and its place in the queue of what is passed on. -/
structure StoresFirst (n : Node) (r : Received) (now : Int64) (n' : Node) : Prop where
  stored : n'.store.Stored r.transaction.hash
  stamped : ∀ f ∈ [Fact.arrival now, Fact.sender r.neighbor.address.text],
    r.transaction.facts.knows f = true ∨
      n'.store.get .transactionMetadata (Key.ofFact r.transaction.hash f.tag) =
        .ok (some f.encode)
  credited : n'.roster = n.roster.bump r.neighbor .fresh
  tips : ∃ approvers, r.transaction.approvers n'.store = .ok approvers ∧
    n'.tips = n.tips.withApprovers approvers r.transaction
  wanted : n'.wanted = ((n.wanted.requestAll (r.transaction.missingParents n'.store)).clear
    r.transaction.hash).2
  queued : n'.outgoing = (n.outgoing.push r.transaction.priority
    (r.transaction.stamped now r.neighbor.address.text)).2

/-- A transaction counts as stored already, and nothing follows. -/
structure StoresNothing (n n' : Node) : Prop where
  store : n'.store = n.store
  roster : n'.roster = n.roster
  tips : n'.tips = n.tips
  wanted : n'.wanted = n.wanted
  outgoing : n'.outgoing = n.outgoing

/-! ## Over fault-free providers -/

section faultFree
variable {n : Node} (h : n.store.FaultFree)
include h

/-- Both facts are found afterwards, unless the transaction knew them before. -/
theorem get_stamping (t : Transaction) (now : Int64) (sender : String) :
    ∀ f ∈ [Fact.arrival now, Fact.sender sender], t.facts.knows f = true ∨
      (n.store.changeAll (t.stamping now sender)).get .transactionMetadata
        (Key.ofFact t.hash f.tag) = .ok (some f.encode) := by
  have hkeys : Key.ofFact t.hash 5 ≠ Key.ofFact t.hash 4 := by
    intro heq
    exact absurd (List.append_cancel_left heq) (by decide)
  intro f hf
  rw [(h.changeAll _).2.get_eq_held, h.held_changeAll]
  have hsender := t.facts.knows_sender now sender
  rcases List.mem_cons.mp hf with rfl | hf
  · -- the sender is written after the time, under another key
    by_cases hknows : t.facts.knows (.arrival now) = true
    · exact .inl hknows
    · right
      by_cases hknows' : t.facts.knows (.sender sender) = true
      · simp [Transaction.stamping, Transaction.learning, hknows, hsender, hknows',
          Change.allEdits, Change.edits, Edit.final, Edit.last?]
      · simp [Transaction.stamping, Transaction.learning, hknows, hsender, hknows',
          Change.allEdits, Change.edits, Edit.final, Edit.last?, Fact.tag, hkeys]
  · rw [List.mem_singleton] at hf
    subst hf
    by_cases hknows : t.facts.knows (.sender sender) = true
    · exact .inl hknows
    · right
      simp [Transaction.stamping, Transaction.learning, hsender, hknows,
        Change.allEdits, Change.edits, Edit.final, Edit.last?, List.flatMap_append]

end faultFree

/-! ## One turn of the storing task -/

section turn
variable {n : Node} {r : Received} (hnext : n.NextToStore r) (w : Surroundings)
include hnext

theorem step_nextToStore :
    ∃ received, n.received.pop? = some (r, received) ∧
      n.step (.work w .store) = { n with received }.storeReceived r w.clock := by
  obtain ⟨received, hpop⟩ := hnext.first
  refine ⟨received, hpop, ?_⟩
  simp [step, perform, storeNext, hpop]

theorem storing_nextToStore :
    n.storing (.work w .store) = some (r, (r.transaction.store n.store).1) := by
  obtain ⟨received, hpop⟩ := hnext.first
  simp [storing, hpop, hnext.unseen]

/-- A transaction that cannot be stored is not remembered as stored. -/
theorem step_of_store_error {cause : StorageError} {store : Store}
    (hstore : r.transaction.store n.store = (.error cause, store)) :
    (n.step (.work w .store)).store = store ∧ (n.step (.work w .store)).seen = n.seen := by
  obtain ⟨received, -, hstep⟩ := step_nextToStore hnext w
  rw [hstep, storeReceived]
  simp only [hnext.unseen, hstore]
  exact ⟨rfl, rfl⟩

theorem storesNothing_of_stored (hfree : n.store.FaultFree)
    (hstored : n.store.Stored r.transaction.hash) :
    n.firstStored (.work w .store) = none ∧ n.StoresNothing (n.step (.work w .store)) := by
  have hknown := hfree.store_known hstored
  obtain ⟨received, -, hstep⟩ := step_nextToStore hnext w
  constructor
  · rw [firstStored, storing_nextToStore hnext, hknown]
  · rw [hstep, storeReceived]
    simp only [hnext.unseen, hknown]
    exact ⟨rfl, rfl, rfl, rfl, rfl⟩

theorem storesFirst_of_not_stored (hfree : n.store.FaultFree)
    (hnew : ¬ n.store.Stored r.transaction.hash) :
    n.firstStored (.work w .store) = some r ∧
      n.StoresFirst r w.clock (n.step (.work w .store)) := by
  have hanswer := hfree.store_new hnew
  obtain ⟨received, -, hstep⟩ := step_nextToStore hnext w
  refine ⟨by rw [firstStored, storing_nextToStore hnext, hanswer], ?_⟩
  -- the node when the records are written and before anything follows
  let m : Node := { n with
    received
    store := n.store.changeAll [.saveAll r.transaction.puts]
    seen := (n.seen.insertHash r.transaction.hash).2 }
  have hm : m.store.FaultFree := (hfree.changeAll [.saveAll r.transaction.puts]).2
  have hafter : n.step (.work w .store) = m.onFirstStore r.transaction r.neighbor w.clock := by
    rw [hstep, storeReceived]
    simp only [hnext.unseen, hanswer]
    rfl
  have hstored : m.store.Stored r.transaction.hash := by
    have := Transaction.stored_of_store_ok (t := r.transaction) (s := n.store) (b := true)
      (by rw [hanswer])
    rwa [hanswer] at this
  obtain ⟨approvers, happrovers, heq⟩ :=
    onFirstStore_faultFree hm r.transaction r.neighbor w.clock
  obtain ⟨store', tips, wanted, outgoing, hframe, hkept⟩ :=
    m.onFirstStore_frame r.transaction r.neighbor w.clock
  have hstore : store' = m.store.changeAll
      (r.transaction.stamping w.clock r.neighbor.address.text) :=
    congrArg Node.store (hframe.symm.trans heq)
  rw [hafter, heq]
  exact {
    stored := hstore ▸ hkept _ hstored
    stamped := get_stamping hm r.transaction w.clock r.neighbor.address.text
    credited := rfl
    tips := ⟨approvers, happrovers, rfl⟩
    wanted := rfl
    queued := rfl }

end turn

/-! ## Storing again -/

/-- When storing a transaction fails, no provider had it before, and each
    has taken all of its records or none.  It is stored afterwards exactly if
    some provider has taken them, and one that failed alone has taken none.

    A node does not remember it as stored.  When the providers work again
    and it is the next to be stored, it is stored for the first time, with
    all that follows, if no provider had taken it; if one had, it counts as
    stored already and nothing follows. -/
theorem failed_store_retried {s s' : Store} {t : Transaction} {cause : StorageError}
    (hanswering : s.Answering) (hfails : t.store s = (.error cause, s')) :
    ¬ s.Stored t.hash ∧
    List.Forall₂ (Provider.AllOrNone t.puts) s.providers s'.providers ∧
    (Transaction.isStored s' t.hash = Transaction.isStored s t.hash ↔ s'.tables = s.tables) ∧
    (s'.tables ≠ s.tables → Transaction.isStored s' t.hash = .ok true) ∧
    (∀ p, s.providers = [p] → s'.tables = s.tables) ∧
    (∀ n r w, NextToStore n r → r.transaction = t → n.store = s →
      (n.step (.work w .store)).store = s' ∧
      (n.step (.work w .store)).seen.containsHash t.hash = false) ∧
    ∀ u : Store, u.Mends s' →
      (s'.tables = s.tables →
        (t.store u).1 = .ok true ∧
        ∀ n r w, NextToStore n r → r.transaction.hash = t.hash → n.store = u →
          n.firstStored (.work w .store) = some r ∧
          n.StoresFirst r w.clock (n.step (.work w .store))) ∧
      (s'.tables ≠ s.tables →
        t.store u = (.ok false, u) ∧
        ∀ n r w, NextToStore n r → r.transaction.hash = t.hash → n.store = u →
          n.firstStored (.work w .store) = none ∧
          n.StoresNothing (n.step (.work w .store))) := by
  obtain ⟨hnew, hsave⟩ := hanswering.saveAll_of_store_error hfails
  have hall : List.Forall₂ (Provider.AllOrNone t.puts) s.providers s'.providers := by
    have := s.allOrNone_saveAll t.puts
    rwa [hsave] at this
  have hanswering' := hanswering.of_allOrNone hall
  -- stored afterwards is what some provider has taken
  have htaken : s'.tables ≠ s.tables ↔ s'.Stored t.hash := by
    constructor
    · intro hne
      exact (Store.tables_eq_or_stored hall).resolve_left hne
    · intro hstored hsame
      rw [Store.stored_iff_tables, hsame, ← Store.stored_iff_tables] at hstored
      exact hnew hstored
  refine ⟨hnew, hall, ⟨?_, fun hsame => hanswering.isStored_congr hanswering' hsame t.hash⟩,
    ?_, ?_, ?_, ?_⟩
  · intro hsame
    by_contra hne
    refine hnew ((hanswering.isStored_eq_true_iff t.hash).mp ?_)
    rw [← hsame]
    exact (hanswering'.isStored_eq_true_iff t.hash).mpr (htaken.mp hne)
  · exact fun hne => (hanswering'.isStored_eq_true_iff t.hash).mpr (htaken.mp hne)
  · exact fun p hone => Store.tables_of_saveAll_error hone hsave
  · rintro n r w hnext rfl rfl
    obtain ⟨hstore, hseen⟩ := step_of_store_error hnext w hfails
    refine ⟨hstore, ?_⟩
    rw [hseen]
    exact hnext.unseen
  · intro u hu
    have hu' : u.Stored t.hash ↔ s'.tables ≠ s.tables :=
      (Store.stored_congr hu.tables t.hash).trans htaken.symm
    constructor
    · intro hsame
      have hnot : ¬ u.Stored t.hash := fun hs => hu'.mp hs hsame
      refine ⟨by rw [hu.faultFree.store_new hnot], ?_⟩
      rintro n r w hnext hhash rfl
      exact storesFirst_of_not_stored hnext w hu.faultFree (hhash ▸ hnot)
    · intro hne
      have hstored : u.Stored t.hash := hu'.mpr hne
      refine ⟨hu.faultFree.store_known hstored, ?_⟩
      rintro n r w hnext hhash rfl
      exact storesNothing_of_stored hnext w hu.faultFree (hhash ▸ hstored)

/-- A provider that works, and one behind it that fails to write. -/
def halfFailing : Store := ⟨[Provider.memory, failing]⟩

theorem answering_failing : Store.Answering ⟨[failing]⟩ := by
  intro p hp attempts
  rw [List.mem_singleton.mp hp]
  rfl

theorem answering_halfFailing : halfFailing.Answering := by
  intro p hp attempts
  rcases List.mem_cons.mp hp with rfl | hp
  · rfl
  · exact answering_failing p hp attempts

theorem store_halfFailing (t : Transaction) :
    t.store halfFailing = (.error (.unavailable "memory"),
      ⟨[{ Provider.memory.attempt with tables := Tables.putAll .empty t.puts },
        failing.attempt]⟩) := rfl

/-- A provider that failed alone works again: the payload of zeros is stored
    for the first time when it comes once more. -/
theorem failed_store_retried_zeros :
    ∃ t, validate 0 Transaction.zeros = .ok t ∧
      let waiting := (acquainted ⟨[Provider.memory]⟩).step (sends Transaction.zeros)
      Store.Answering ⟨[failing]⟩ ∧
      t.store ⟨[failing]⟩ = (.error (.unavailable "memory"), ⟨[failing.attempt]⟩) ∧
      Store.Mends ⟨[Provider.memory]⟩ ⟨[failing.attempt]⟩ ∧
      (t.store ⟨[Provider.memory]⟩).1 = .ok true ∧
      waiting.NextToStore ⟨t, onlyNeighbor⟩ ∧
      waiting.firstStored storesNext = some ⟨t, onlyNeighbor⟩ := by
  obtain ⟨t, hvalid⟩ := validate_zeros
  obtain ⟨requests, hsend⟩ := step_sends ⟨[Provider.memory]⟩ hvalid
  refine ⟨t, hvalid, ?_⟩
  intro waiting
  have hmends : Store.Mends ⟨[Provider.memory]⟩ ⟨[failing.attempt]⟩ :=
    ⟨.one ⟨fun _ _ => rfl, rfl⟩, rfl⟩
  have hnext : waiting.NextToStore ⟨t, onlyNeighbor⟩ := by
    show NextToStore ((acquainted ⟨[Provider.memory]⟩).step (sends Transaction.zeros)) _
    rw [hsend]
    exact ⟨⟨_, WeightQueue.pop?_push_empty _ _ _⟩, rfl⟩
  have hstore : waiting.store = ⟨[Provider.memory]⟩ := by
    show ((acquainted ⟨[Provider.memory]⟩).step (sends Transaction.zeros)).store = _
    rw [hsend]
    rfl
  obtain ⟨_, _, _, _, hone, _, hagain⟩ :=
    failed_store_retried answering_failing (store_failing t)
  -- the only provider failed, so it has taken nothing
  obtain ⟨hstores, hfirst⟩ := (hagain _ hmends).1 (hone failing rfl)
  exact ⟨answering_failing, store_failing t, hmends, hstores, hnext,
    (hfirst _ _ _ hnext rfl hstore).1⟩

/-- When the provider behind another fails, the one in front keeps the
    payload: storing it failed, and yet it is stored. -/
theorem not_isStored_of_failed_store :
    ¬ ∀ (s s' : Store) (t : Transaction) (cause : StorageError), s.Answering →
      t.store s = (.error cause, s') →
      Transaction.isStored s' t.hash = Transaction.isStored s t.hash := by
  intro h
  obtain ⟨t, _⟩ := validate_zeros
  have hfails := store_halfFailing t
  have hall := halfFailing.allOrNone_saveAll t.puts
  rw [(answering_halfFailing.saveAll_of_store_error hfails).2] at hall
  have hbefore : Transaction.isStored halfFailing t.hash = .ok false := rfl
  have hafter := ((answering_halfFailing.of_allOrNone hall).isStored_eq_true_iff t.hash).mpr
    ⟨_, List.mem_cons_self, (t.stored_puts .empty t.hash).mpr (.inl rfl)⟩
  have hsame := h halfFailing _ t _ answering_halfFailing hfails
  rw [hbefore, hafter] at hsame
  cases hsame

end Node

end TernaryGossip
