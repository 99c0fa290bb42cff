import TernaryGossip.Proofs.Gossip.Effect

/-! # What becomes of accepted transactions

    An accepted transaction waits to be stored, is stored, or is lost: a
    full queue drops it, or the store fails when its turn comes.  Nothing
    else happens to it, whatever providers a store has and however they
    fail.

    The memory of recent payloads is filled by accepted transactions alone,
    and the memory of stored hashes by stored ones.  So a packet that is
    answered as a duplicate carries a payload whose transaction is stored
    or waits, unless it was lost.  It can be lost for good only as long as
    its payload is remembered. -/

namespace TernaryGossip

namespace Node

/-- A received transaction of this hash waits to be stored. -/
def Waits (n : Node) (h : Hash) : Prop := ∃ r ∈ n.received.toList, r.transaction.hash = h

/-- A transaction of this hash is stored or waits to be. -/
def Has (n : Node) (h : Hash) : Prop := n.store.Stored h ∨ n.Waits h

/-! ## The queue -/

/-- Pushing loses only the transaction that it yields.  One that is replaced
    has the same hash as the one that replaces it. -/
theorem waits_push {q : WeightQueue Received} (hkeyed : q.Keyed Received.priority) (r : Received)
    {h : Hash} (hw : r.transaction.hash = h ∨ ∃ p ∈ q.toList, p.transaction.hash = h) :
    (∃ p ∈ (q.push r.priority r).2.toList, p.transaction.hash = h) ∨
      ∃ p, (q.push r.priority r).1 = some p ∧ p.transaction.hash = h := by
  -- the pushed one waits, or the queue was too full even for it
  have hself : r.transaction.hash = h →
      (∃ p ∈ (q.push r.priority r).2.toList, p.transaction.hash = h) ∨
        ∃ p, (q.push r.priority r).1 = some p ∧ p.transaction.hash = h := by
    intro hr
    rcases q.mem_push_self r.priority r with hmem | hdrop
    · exact .inl ⟨r, WeightQueue.mem_toList.mpr ⟨_, hmem⟩, hr⟩
    · exact .inr ⟨r, hdrop, hr⟩
  rcases hw with hr | ⟨p, hp, hph⟩
  · exact hself hr
  · obtain ⟨key, hmem⟩ := WeightQueue.mem_toList.mp hp
    rcases WeightQueue.mem_push_of_mem (p := r.priority) (a := r) hmem with hsame | hmem | hdrop
    · have hkey : key = p.priority := hkeyed _ hmem
      have hhash : p.priority.hash = r.priority.hash := by rw [← hkey]; exact congrArg _ hsame
      exact hself (hhash.symm.trans hph)
    · exact .inl ⟨p, WeightQueue.mem_toList.mpr ⟨key, hmem⟩, hph⟩
    · exact .inr ⟨p, hdrop, hph⟩

/-! ## The invariant -/

/-- What holds of a node after the events of a trace. -/
structure Accounted (n : Node) (tr : Trace) : Prop where
  /-- Received transactions wait under their own priorities. -/
  keyed : n.received.Keyed Received.priority
  /-- What waits was accepted. -/
  waiting : ∀ r ∈ n.received.toList, r ∈ tr.log accepted
  /-- What was stored was accepted. -/
  stored : ∀ r ∈ tr.log firstStored, r ∈ tr.log accepted
  /-- Every hash that is remembered as stored is stored. -/
  hashes : ∀ x ∈ n.seen.hashes.entries, n.store.Stored x.1
  /-- Every remembered payload was accepted. -/
  packets : ∀ x ∈ n.seen.packets.entries, ∃ r ∈ tr.log accepted,
    x = (Sha256.digest r.transaction.payload, r.transaction.hash)
  /-- For every valid payload that was considered, one with the same
      fingerprint was accepted. -/
  considered : ∀ x ∈ tr.log considered, ∀ t, validate n.minWeight x.2 = .ok t →
    ∃ r ∈ tr.log accepted, Sha256.digest r.transaction.payload = Sha256.digest x.2
  /-- What was accepted is stored, waits, or was lost. -/
  accepted : ∀ r ∈ tr.log Node.accepted, n.Has r.transaction.hash ∨
    ∃ q ∈ tr.log lost, q.transaction.hash = r.transaction.hash

theorem accounted_started (config : GossipConfig) (minWeight : Nat) (store : Store) (tips : Tips)
    (milestones : Milestones) (wantedCapacity : Nat) :
    (started config minWeight store tips milestones wantedCapacity).Accounted [] where
  keyed := WeightQueue.keyed_empty _ _
  waiting := fun _ hr => absurd hr List.not_mem_nil
  stored := fun _ hr => absurd hr List.not_mem_nil
  hashes := fun _ hx => absurd hx List.not_mem_nil
  packets := fun _ hx => absurd hx List.not_mem_nil
  considered := fun _ hx => absurd hx List.not_mem_nil
  accepted := fun _ hr => absurd hr List.not_mem_nil

/-- A hash that was accounted for stays so when the store keeps what it
    has and the queue loses nothing unseen. -/
theorem has_or_lost {n n' : Node} {tr : Trace} {e : Event} {h : Hash}
    (hstored : n.store.Stored h → n'.store.Stored h)
    (hwaits : n.Waits h → n'.Has h ∨ ∃ q, n.lost e = some q ∧ q.transaction.hash = h)
    (hold : n.Has h ∨ ∃ q ∈ tr.log lost, q.transaction.hash = h) :
    n'.Has h ∨ ∃ q ∈ Trace.log (tr ++ [(n, e)]) lost, q.transaction.hash = h := by
  rcases hold with (hs | hw) | ⟨q, hq, hqh⟩
  · exact .inl (.inl (hstored hs))
  · rcases hwaits hw with hhas | ⟨q, hq, hqh⟩
    · exact .inl hhas
    · exact .inr ⟨q, Trace.mem_log_concat.mpr (.inr hq), hqh⟩
  · exact .inr ⟨q, Trace.mem_log_concat.mpr (.inl hq), hqh⟩

/-- What waited or is accepted now waits afterwards, or it is dropped. -/
theorem Aside.waits {n n' : Node} {e : Event} (ha : n.Aside e n')
    (hkeyed : n.received.Keyed Received.priority) {h : Hash}
    (hw : n.Waits h ∨ ∃ r, n.accepted e = some r ∧ r.transaction.hash = h) :
    n'.Has h ∨ ∃ q, n.lost e = some q ∧ q.transaction.hash = h := by
  have hreceived := ha.received
  cases hacc : n.accepted e with
  | none =>
    simp only [hacc] at hreceived
    rcases hw with hw | ⟨r, hr, _⟩
    · refine .inl (.inr ?_)
      unfold Waits
      rw [hreceived]
      exact hw
    · rw [hacc] at hr
      cases hr
  | some p =>
    simp only [hacc] at hreceived
    have hw' : p.transaction.hash = h ∨ ∃ q ∈ n.received.toList, q.transaction.hash = h := by
      rcases hw with hw | ⟨r, hr, hrh⟩
      · exact .inr hw
      · rw [hacc] at hr
        cases hr
        exact .inl hrh
    rcases waits_push hkeyed p hw' with hw | ⟨q, hq, hqh⟩
    · refine .inl (.inr ?_)
      unfold Waits
      rw [hreceived]
      exact hw
    · exact .inr ⟨q, by simp [lost, evicted, hacc, hq], hqh⟩

/-- An event that takes nothing to store it. -/
theorem Accounted.aside {n n' : Node} {tr : Trace} {e : Event} (h : n.Accounted tr)
    (hfirst : n.firstStored e = none) (ha : n.Aside e n') : n'.Accounted (tr ++ [(n, e)]) := by
  have hreceived := ha.received
  have hsame := fun r (hr : r ∈ tr.log Node.accepted) =>
    (Trace.mem_log_concat (e := e) (n := n)).mpr (.inl hr)
  constructor
  case keyed =>
    rw [hreceived]
    split
    · exact h.keyed.push _
    · exact h.keyed
  case waiting =>
    intro r hr
    rcases ha.mem_received hr with hr | hr
    · exact Trace.mem_log_concat.mpr (.inr hr)
    · exact hsame r (h.waiting r hr)
  case stored =>
    intro r hr
    rw [Trace.log_concat_none _ hfirst] at hr
    exact hsame r (h.stored r hr)
  case hashes =>
    intro x hx
    rw [ha.hashes] at hx
    rw [ha.store]
    exact h.hashes x hx
  case packets =>
    intro x hx
    rcases ha.packets x hx with hx | ⟨r, hr, hx⟩
    · obtain ⟨r, hr, hx⟩ := h.packets x hx
      exact ⟨r, hsame r hr, hx⟩
    · exact ⟨r, Trace.mem_log_concat.mpr (.inr hr), hx⟩
  case considered =>
    intro x hx t hvalid
    rw [ha.minWeight] at hvalid
    rcases Trace.mem_log_concat.mp hx with hx | hx
    · obtain ⟨r, hr, hdigest⟩ := h.considered x hx t hvalid
      exact ⟨r, hsame r hr, hdigest⟩
    · -- a payload that is remembered was accepted before, any other is accepted now
      by_cases hseen : n.seen.packets.contains (Sha256.digest x.2) = true
      · obtain ⟨hash, hmem⟩ := Recent.exists_of_contains hseen
        obtain ⟨r, hr, heq⟩ := h.packets _ hmem
        exact ⟨r, hsame r hr, (Prod.mk.inj heq).1.symm⟩
      · have hacc : n.accepted e = some ⟨t, x.1⟩ := by
          simp [Node.accepted, hx, hseen, hvalid, Except.toOption]
        refine ⟨_, Trace.mem_log_concat.mpr (.inr hacc), ?_⟩
        rw [payload_of_validate hvalid]
  case accepted =>
    intro r hr
    rcases Trace.mem_log_concat.mp hr with hr | hr
    · refine has_or_lost ?_ (fun hw => ha.waits h.keyed (.inl hw)) (h.accepted r hr)
      rw [ha.store]
      exact id
    · rcases ha.waits h.keyed (.inr ⟨r, hr, rfl⟩) with hhas | ⟨q, hq, hqh⟩
      · exact .inl hhas
      · exact .inr ⟨q, Trace.mem_log_concat.mpr (.inr hq), hqh⟩

/-- A storing task: what it takes is stored afterwards, or the store failed. -/
theorem Accounted.take {n n' : Node} {tr : Trace} {e : Event} {r : Received}
    {received : WeightQueue Received} (h : n.Accounted tr) (hconsidered : n.considered e = none)
    (hweight : n'.minWeight = n.minWeight)
    (hpop : n.received.pop? = some (r, received)) (hreceived : n'.received = received)
    (hstored : ∀ g, n.store.Stored g → n'.store.Stored g)
    (hhashes : ∀ x ∈ n'.seen.hashes.entries, n'.store.Stored x.1)
    (hpackets : n'.seen.packets = n.seen.packets)
    (htaken : n'.store.Stored r.transaction.hash ∨ n.failed e = some r) :
    n'.Accounted (tr ++ [(n, e)]) := by
  have hlist := WeightQueue.toList_of_pop? hpop
  have hacc : n.accepted e = none := by simp [Node.accepted, hconsidered]
  have hsame := fun r (hr : r ∈ tr.log Node.accepted) =>
    (Trace.mem_log_concat (e := e) (n := n)).mpr (.inl hr)
  constructor
  case keyed =>
    rw [hreceived]
    exact h.keyed.pop hpop
  case waiting =>
    intro q hq
    rw [hreceived] at hq
    exact hsame q (h.waiting q (by rw [hlist]; exact List.mem_cons_of_mem r hq))
  case stored =>
    intro q hq
    rcases Trace.mem_log_concat.mp hq with hq | hq
    · exact hsame q (h.stored q hq)
    · exact hsame q (h.waiting q (waiting_of_firstStored hq))
  case hashes => exact hhashes
  case packets =>
    intro x hx
    rw [hpackets] at hx
    obtain ⟨q, hq, hx⟩ := h.packets x hx
    exact ⟨q, hsame q hq, hx⟩
  case considered =>
    intro x hx t hvalid
    rw [hweight] at hvalid
    rw [Trace.log_concat_none _ hconsidered] at hx
    obtain ⟨q, hq, hdigest⟩ := h.considered x hx t hvalid
    exact ⟨q, hsame q hq, hdigest⟩
  case accepted =>
    intro q hq
    rcases Trace.mem_log_concat.mp hq with hq | hq
    · refine has_or_lost (hstored _) ?_ (h.accepted q hq)
      rintro ⟨p, hp, hph⟩
      rw [hlist] at hp
      -- the first in the queue is the one that is taken
      rcases List.mem_cons.mp hp with rfl | hp
      · rcases htaken with hs | hf
        · exact .inl (.inl (hph ▸ hs))
        · exact .inr ⟨p, by simp [lost, evicted, hacc, hf], hph⟩
      · exact .inl (.inr ⟨p, by rw [hreceived]; exact hp, hph⟩)
    · rw [hacc] at hq
      cases hq

/-- A store that answers has the transaction, and what it had before. -/
theorem stored_of_answer {t : Transaction} {s s' : Store} {b : Bool}
    (hstore : t.store s = (.ok b, s')) :
    (∀ g, s.Stored g → s'.Stored g) ∧ s'.Stored t.hash := by
  constructor
  · intro g hg
    have := t.stored_store hg
    rwa [hstore] at this
  · have := Transaction.stored_of_store_ok (t := t) (s := s) (b := b) (by rw [hstore])
    rwa [hstore] at this

theorem stored_of_insertHash {n : Node} {tr : Trace} (h : n.Accounted tr) {s : Store} {g : Hash}
    (hstored : ∀ g, n.store.Stored g → s.Stored g) (hg : s.Stored g) :
    ∀ x ∈ (n.seen.insertHash g).2.hashes.entries, s.Stored x.1 := by
  intro x hx
  rcases Seen.mem_of_mem_insertHash hx with hxg | hx
  · rw [hxg]
    exact hg
  · exact hstored _ (h.hashes x hx)

theorem accounted_step {n : Node} {tr : Trace} (h : n.Accounted tr) (e : Event) :
    (n.step e).Accounted (tr ++ [(n, e)]) := by
  cases n.effect e with
  | aside hstoring ha => exact h.aside (firstStored_of_storing hstoring) ha
  | recent he hpop hseen heq =>
    subst he
    rw [heq]
    -- what is remembered as stored is stored, so nothing is lost
    obtain ⟨_, hmem⟩ := Recent.exists_of_contains hseen
    exact h.take rfl rfl hpop rfl (fun _ => id) h.hashes rfl (.inl (h.hashes _ hmem))
  | @fails w r _ cause store he hpop hseen hstore heq =>
    subst he
    rw [heq]
    have hstored : ∀ g, n.store.Stored g → store.Stored g := by
      intro g hg
      have := r.transaction.stored_store hg
      rwa [hstore] at this
    have hfailed : n.failed (.work w .store) = some r := by
      simp [failed, storing, hpop, hseen, hstore]
    exact h.take rfl rfl hpop rfl hstored (fun x hx => hstored _ (h.hashes x hx)) rfl
      (.inr hfailed)
  | @known w r _ store he hpop hseen hstore heq =>
    subst he
    rw [heq]
    obtain ⟨hstored, htaken⟩ := stored_of_answer hstore
    refine h.take rfl rfl hpop rfl hstored ?_ rfl (.inl htaken)
    exact stored_of_insertHash h hstored htaken
  | @first w r received store he hpop hseen hstore heq =>
    subst he
    rw [heq]
    obtain ⟨hstored, htaken⟩ := stored_of_answer hstore
    -- what follows a first store may fail in part, but it takes nothing away
    obtain ⟨store', tips, wanted, outgoing, hframe, hstored'⟩ :=
      { n with received, store, seen := (n.seen.insertHash r.transaction.hash).2 }.onFirstStore_frame
        r.transaction r.neighbor w.clock
    rw [hframe]
    refine h.take rfl rfl hpop rfl (fun g hg => hstored' g (hstored g hg)) ?_ rfl
      (.inl (hstored' _ htaken))
    exact fun x hx => hstored' _ (stored_of_insertHash h hstored htaken x hx)

theorem accounted_run {n : Node} (h : n.Accounted []) (es : List Event) :
    (n.run es).Accounted (n.trace es) :=
  run_induction h (fun _ _ e hm => accounted_step hm e) es

/-! ## The first packet of a neighbor

    A node meets a neighbor, which sends a payload that is accepted when no
    weight is required. -/

section firstPacket

variable {payload : Bytes} {t : Transaction}

/-- The address of a neighbor. -/
def someAddress : SocketAddress := ⟨.loopback, 14600⟩

/-- The neighbor is met. -/
def meetsNeighbor : Event := .meet (.ofAddress .datagram someAddress) someAddress true

/-- A node with standard settings that has met the neighbor. -/
def acquainted (store : Store) : Node :=
  (started .standard 0 store .empty .empty 2).step meetsNeighbor

/-- The neighbor that it has met. -/
def onlyNeighbor : Neighbor := ⟨0, .ofAddress .datagram someAddress, someAddress, true⟩

/-- The neighbor sends a payload. -/
def sends (payload : Bytes) : Event :=
  .packet 0 (Packet.encode payload Hash.null) someAddress .datagram

/-- It is the turn of a received transaction to be stored. -/
def storesNext : Event := .work ⟨⟨false, []⟩, fun _ => none, 0, fun _ => 0⟩ .store

theorem payload_zeros :
    Packet.payload (Packet.encode Transaction.zeros Hash.null) = Transaction.zeros :=
  Packet.payload_encode _ List.length_replicate

theorem standard_never_drops (draw : Nat) :
    GossipConfig.standard.dropChance.happens draw = false :=
  Binary64.happens_of_isZero rfl draw

/-- The payload is remembered and its transaction queued. -/
theorem step_sends (store : Store) (hvalid : validate 0 payload = .ok t) :
    ∃ requests, (acquainted store).step (sends payload) =
      { acquainted store with
        requests
        roster := (acquainted store).roster.bump onlyNeighbor .all
        seen := ((acquainted store).seen.lookupPacket (Sha256.digest payload)).2.insertPacket
          (Sha256.digest payload) t.hash
        received := ((WeightQueue.empty 1000).push (Received.mk t onlyNeighbor).priority
          ⟨t, onlyNeighbor⟩).2 } := by
  have hpayload := Packet.payload_encode Hash.null (length_of_validate hvalid)
  have hreceive : (acquainted store).receive 0 (Packet.encode payload Hash.null)
      someAddress .datagram = (.queued, _) :=
    receive_new rfl (standard_never_drops 0) (Packet.length_encode _ _) rfl
      (by rw [hpayload]; exact hvalid)
  rw [hpayload] at hreceive
  rw [sends, step, hreceive]
  simp only
  rw [queueRequest_eq]
  exact ⟨_, rfl⟩

theorem contains_step_sends (store : Store) (hvalid : validate 0 payload = .ok t) :
    ((acquainted store).step (sends payload)).seen.packets.contains
      (Sha256.digest payload) = true := by
  obtain ⟨requests, hsend⟩ := step_sends store hvalid
  -- the memory has room, so the last payload is in it
  have hroom : 0 < ((acquainted store).seen.lookupPacket
      (Sha256.digest payload)).2.packets.capacity := Nat.zero_lt_succ 14999
  rw [hsend]
  exact Recent.contains_put_self hroom _ _

/-- The neighbor is met, and what it sends has its turn to be stored. -/
def arrives (payload : Bytes) : List Event := [meetsNeighbor, sends payload, storesNext]

theorem run_arrives (store : Store) (payload : Bytes) :
    (started .standard 0 store .empty .empty 2).run (arrives payload) =
      ((acquainted store).step (sends payload)).step storesNext := by
  rw [arrives, run_cons, run_cons, run_cons, run_nil, acquainted]

end firstPacket

/-! ### A store that fails -/

/-- A provider that fails to write several records at a time. -/
def failing : Provider :=
  { Provider.memory with faults := fun _ operation => operation == .saveAll }

theorem store_failing (t : Transaction) :
    t.store ⟨[failing]⟩ = (.error (.unavailable "memory"), ⟨[failing.attempt]⟩) := rfl

theorem step_storesNext_failing {n : Node} {r : Received} {received : WeightQueue Received}
    (hpop : n.received.pop? = some (r, received))
    (hseen : n.seen.containsHash r.transaction.hash = false) (hstore : n.store = ⟨[failing]⟩) :
    n.step storesNext =
      { n with received, store := ⟨[failing.attempt]⟩ }.bump r.neighbor .invalid := by
  simp [step, storesNext, perform, storeNext, hpop, storeReceived, hseen, hstore, store_failing]

/-- The payload stays remembered, and its transaction is nowhere. -/
theorem run_failing {payload : Bytes} {t : Transaction} (hvalid : validate 0 payload = .ok t) :
    let n := (started .standard 0 ⟨[failing]⟩ .empty .empty 2).run (arrives payload)
    n.seen.packets.contains (Sha256.digest payload) = true ∧ ¬ n.Has t.hash := by
  intro n
  obtain ⟨requests, hsend⟩ := step_sends ⟨[failing]⟩ hvalid
  have hrun : n = ((acquainted ⟨[failing]⟩).step (sends payload)).step storesNext :=
    run_arrives _ _
  have hseen := contains_step_sends ⟨[failing]⟩ hvalid
  rw [hsend] at hseen
  rw [hrun, hsend, step_storesNext_failing (WeightQueue.pop?_push_empty _ _ _) rfl rfl]
  refine ⟨hseen, ?_⟩
  rintro (⟨p, hp, hhas⟩ | ⟨r, hr, _⟩)
  · rw [List.mem_singleton.mp hp] at hhas
    cases hhas
  · cases hr

/-! ## Remembered payloads -/

/-- A transaction was accepted for the fingerprint of a payload, and it is
    stored, waits to be stored, or was lost. -/
def AccountsFor (n : Node) (tr : Trace) (payload : Bytes) : Prop :=
  ∃ r ∈ tr.log accepted,
    Sha256.digest r.transaction.payload = Sha256.digest payload ∧
    Transaction.decode r.transaction.payload = .ok r.transaction ∧
    (n.Has r.transaction.hash ∨ ∃ q ∈ tr.log lost, q.transaction.hash = r.transaction.hash)

theorem Accounted.accountsFor {n : Node} {tr : Trace} (h : n.Accounted tr) {payload : Bytes}
    (hseen : n.seen.packets.contains (Sha256.digest payload) = true) :
    n.AccountsFor tr payload := by
  obtain ⟨hash, hmem⟩ := Recent.exists_of_contains hseen
  obtain ⟨r, hr, heq⟩ := h.packets _ hmem
  -- the invariant names the accepted transaction, the log says that it is valid
  obtain ⟨x, _, hx⟩ := Trace.mem_log.mp hr
  obtain ⟨_, _, hvalid⟩ := accepted_spec hx
  exact ⟨r, hr, (Prod.mk.inj heq).1.symm, decode_of_validate hvalid, h.accepted r hr⟩

/-- In every reachable state each accepted transaction, each remembered
    payload, and so each duplicate is accounted for.  A payload that is no
    longer remembered is queued when it is sent again, and it waits unless
    this very push drops it. -/
theorem remembered_accounted (config : GossipConfig) (minWeight : Nat) (store : Store)
    (tips : Tips) (milestones : Milestones) (wantedCapacity : Nat) (es : List Event) :
    let start := started config minWeight store tips milestones wantedCapacity
    let n := start.run es
    (∀ r ∈ (start.trace es).log accepted, n.Has r.transaction.hash ∨
      ∃ q ∈ (start.trace es).log lost, q.transaction.hash = r.transaction.hash) ∧
    (∀ payload, n.seen.packets.contains (Sha256.digest payload) = true →
      n.AccountsFor (start.trace es) payload) ∧
    (∀ draw packet sender kind, (n.receive draw packet sender kind).1 = .duplicate →
      n.AccountsFor (start.trace es) (Packet.payload packet)) ∧
    (∀ draw packet sender kind neighbor t,
      n.roster.find? sender kind = some neighbor →
      n.config.dropChance.happens draw = false →
      packet.length = 1653 →
      n.seen.packets.contains (Sha256.digest (Packet.payload packet)) = false →
      validate n.minWeight (Packet.payload packet) = .ok t →
      (n.receive draw packet sender kind).1 = .queued ∧
      ((n.receive draw packet sender kind).2.Has t.hash ∨
        ∃ q, n.evicted (.packet draw packet sender kind) = some q ∧
          q.transaction.hash = t.hash)) := by
  intro start n
  have hinv : n.Accounted (start.trace es) :=
    accounted_run (accounted_started config minWeight store tips milestones wantedCapacity) es
  refine ⟨hinv.accepted, fun payload => hinv.accountsFor, ?_, ?_⟩
  · intro draw packet sender kind hdup
    exact hinv.accountsFor (contains_of_duplicate hdup)
  · intro draw packet sender kind neighbor t hfind hkeep hlength hnew hvalid
    have haccepted : n.accepted (.packet draw packet sender kind) = some ⟨t, neighbor⟩ := by
      rw [accepted_packet hfind hkeep hlength, hnew, hvalid]
      rfl
    refine ⟨by rw [receive_new hfind hkeep hlength hnew hvalid], ?_⟩
    -- a packet makes no store fail, so what is lost now was pushed out
    rcases (n.aside_receive draw packet sender kind).waits hinv.keyed
      (.inr ⟨_, haccepted, rfl⟩) with hhas | ⟨q, hq, hqh⟩
    · exact .inl hhas
    · refine .inr ⟨q, ?_, hqh⟩
      simpa [lost, failed, storing] using hq

/-- The first payload of a neighbor is queued; sent again it is a duplicate,
    and accounted for. -/
theorem remembered_accounted_zeros :
    let start := started .standard 0 ⟨[failing]⟩ .empty .empty 2
    let packet := Packet.encode Transaction.zeros Hash.null
    ((start.run [meetsNeighbor]).receive 0 packet someAddress .datagram).1 = .queued ∧
      ((start.run [meetsNeighbor, sends Transaction.zeros]).receive 0 packet someAddress
        .datagram).1 = .duplicate ∧
      (start.run [meetsNeighbor, sends Transaction.zeros]).AccountsFor
        (start.trace [meetsNeighbor, sends Transaction.zeros]) Transaction.zeros := by
  intro start packet
  obtain ⟨t, hvalid⟩ := validate_zeros
  obtain ⟨_, _, _, hfirst⟩ :=
    remembered_accounted .standard 0 ⟨[failing]⟩ .empty .empty 2 [meetsNeighbor]
  obtain ⟨_, _, hagain, _⟩ :=
    remembered_accounted .standard 0 ⟨[failing]⟩ .empty .empty 2
      [meetsNeighbor, sends Transaction.zeros]
  obtain ⟨requests, hsend⟩ := step_sends ⟨[failing]⟩ hvalid
  have hmeet : start.run [meetsNeighbor] = acquainted ⟨[failing]⟩ := by
    rw [run_cons, run_nil, acquainted]
  have hrun : start.run [meetsNeighbor, sends Transaction.zeros] =
      (acquainted ⟨[failing]⟩).step (sends Transaction.zeros) := by
    rw [run_cons, run_cons, run_nil, acquainted]
  have hdup : ((start.run [meetsNeighbor, sends Transaction.zeros]).receive 0 packet someAddress
      .datagram).1 = .duplicate := by
    have hseen := contains_step_sends ⟨[failing]⟩ hvalid
    rw [hsend] at hseen
    rw [hrun, hsend]
    exact duplicate_of_contains rfl (standard_never_drops 0) (Packet.length_encode _ _)
      (by rw [payload_zeros]; exact hseen)
  have haccounts := hagain 0 packet someAddress .datagram hdup
  rw [payload_zeros] at haccounts
  refine ⟨?_, hdup, haccounts⟩
  rw [← payload_zeros] at hvalid
  rw [hmeet] at hfirst ⊢
  exact (hfirst 0 packet someAddress .datagram onlyNeighbor t rfl (standard_never_drops 0)
    (Packet.length_encode _ _) rfl hvalid).1

/-- A remembered payload may be neither stored nor waiting. -/
theorem not_remembered_has :
    ¬ ∀ (config : GossipConfig) (minWeight : Nat) (store : Store) (tips : Tips)
      (milestones : Milestones) (wantedCapacity : Nat) (es : List Event) (payload : Bytes)
      (t : Transaction),
      ((started config minWeight store tips milestones wantedCapacity).run es).seen.packets.contains
        (Sha256.digest payload) = true →
      Transaction.decode payload = .ok t →
      ((started config minWeight store tips milestones wantedCapacity).run es).Has t.hash := by
  intro h
  -- the store fails the only transaction, and its payload stays remembered
  obtain ⟨t, hvalid⟩ := validate_zeros
  obtain ⟨hseen, hlost⟩ := run_failing hvalid
  exact hlost (h .standard 0 ⟨[failing]⟩ .empty .empty 2 (arrives Transaction.zeros) _ t hseen
    (decode_of_validate hvalid))

end Node

end TernaryGossip
