import TernaryGossip.Proofs.Gossip.Accepted
import TernaryGossip.Proofs.Gossip.History

/-! # Stored once, credited once, passed on once

    Over one fault-free provider every hash is stored at most once, and each
    first store counts as one new transaction for one neighbor and queues
    one transaction to be passed on.  This holds for any sizes of the queues
    and memories, and however often and from whom a packet comes.

    If chance drops no packet, the queue of received transactions never
    overflows, and different payloads have different fingerprints, then
    nothing valid is missed: once that queue is empty, exactly the valid
    payloads that arrived are stored, besides what was stored before. -/

namespace TernaryGossip

/-- What happens to the queue of transactions to pass on. -/
inductive Sending
  /-- A transaction is queued. -/
  | queue (t : Transaction)
  /-- The first one is taken. -/
  | take

namespace Sending

/-- The queue afterwards. -/
def apply (q : WeightQueue Transaction) : Sending → WeightQueue Transaction
  | .queue t => (q.push t.priority t).2
  | .take => (q.pop?.map (·.2)).getD q

/-- The hash and the payload of a transaction that is queued. -/
def queued? : Sending → Option (Hash × Bytes)
  | .queue t => some (t.hash, t.payload)
  | .take => none

end Sending

/-- The payloads of the packets of the right size that neighbors sent. -/
def Trace.payloads (tr : Trace) : List Bytes := (tr.log Node.arrival).map (·.2)

theorem Trace.mem_payloads_concat {tr : Trace} {n : Node} {e : Event} {p : Bytes} :
    p ∈ Trace.payloads (tr ++ [(n, e)]) ↔
      p ∈ tr.payloads ∨ ∃ neighbor, n.arrival e = some (neighbor, p) := by
  simp only [payloads, List.mem_map, mem_log_concat]
  constructor
  · rintro ⟨x, hx | hx, rfl⟩
    · exact .inl ⟨x, hx, rfl⟩
    · exact .inr ⟨x.1, hx⟩
  · rintro (⟨x, hx, rfl⟩ | ⟨neighbor, hx⟩)
    · exact ⟨x, .inl hx, rfl⟩
    · exact ⟨_, .inr hx, rfl⟩

namespace Node

/-- What an event does to the queue of transactions to pass on. -/
def sending (n : Node) : Event → Option Sending
  | .work _ .passOn => some .take
  | .work w .store =>
      (n.firstStored (.work w .store)).map fun r =>
        .queue (r.transaction.stamped w.clock r.neighbor.address.text)
  | _ => none

/-! ## Passing on -/

theorem outgoing_step {n : Node} {T : Tables} (hkeeps : n.store.Keeps T) (e : Event) :
    (n.step e).outgoing = (n.sending e).toList.foldl Sending.apply n.outgoing := by
  cases effectOver hkeeps e with
  | aside hfirst ha =>
    rw [ha.outgoing]
    cases e with
    | work w task => cases task <;> simp [sending, hfirst, Sending.apply]
    | _ => rfl
  | known he hfirst hpop heq =>
    subst he
    simp [sending, hfirst, heq]
  | first he hfirst hpop hnew hstore hT' heq =>
    subst he
    simp only [sending, hfirst, heq]
    rfl

theorem queued?_sending (n : Node) (e : Event) :
    (n.sending e).toList.filterMap Sending.queued? =
      (n.firstStored e).toList.map fun r => (r.transaction.hash, r.transaction.payload) := by
  cases e with
  | work w task =>
    cases task with
    | store =>
      cases hfirst : n.firstStored (.work w .store) <;> simp [sending, hfirst, Sending.queued?,
        Transaction.stamped]
    | _ => rfl
  | _ => rfl

theorem queued?_log (tr : Trace) :
    (tr.log sending).filterMap Sending.queued? =
      (tr.log firstStored).map fun r => (r.transaction.hash, r.transaction.payload) := by
  induction tr with
  | nil => rfl
  | cons x tr ih =>
    rw [Trace.log_cons, Trace.log_cons, List.filterMap_append, List.map_append, queued?_sending, ih]

/-! ## Crediting -/

/-- The counts of new transactions agree with the log of first stores. -/
structure Credited (n : Node) (tr : Trace) : Prop where
  valid : n.roster.Valid
  waiting : ∀ r ∈ n.received.toList, n.roster.Known r.neighbor
  fresh : ∀ q : Neighbor,
    (n.roster.tally q).fresh = (tr.log firstStored).countP fun r => r.neighbor.id = q.id
  sum : n.roster.freshCounts.sum = (tr.log firstStored).length

theorem credited_started (config : GossipConfig) (minWeight : Nat) (store : Store) (tips : Tips)
    (milestones : Milestones) (wantedCapacity : Nat) :
    (started config minWeight store tips milestones wantedCapacity).Credited [] where
  valid := Roster.valid_empty
  waiting := fun _ hr => absurd hr List.not_mem_nil
  fresh := fun _ => rfl
  sum := rfl

theorem credited_step {n : Node} {tr : Trace} {T : Tables} (h : n.Credited tr)
    (hkeeps : n.store.Keeps T) (e : Event) : (n.step e).Credited (tr ++ [(n, e)]) := by
  cases effectOver hkeeps e with
  | aside hfirst ha =>
    have hlog := Trace.log_concat_none tr hfirst
    constructor
    case valid => exact ha.roster.valid h.valid
    case waiting =>
      -- who sends an accepted packet is listed, and so has counts
      intro r hr
      apply ha.roster.known
      rcases ha.mem_received hr with hr | hr
      · exact h.valid _ (listed_of_accepted hr)
      · exact h.waiting r hr
    case fresh =>
      intro q
      rw [ha.roster.fresh_tally, hlog, h.fresh]
    case sum => rw [ha.roster.sum_freshCounts, hlog, h.sum]
  | known he hfirst hpop heq =>
    have hlog := Trace.log_concat_none tr hfirst
    have hlist := WeightQueue.toList_of_pop? hpop
    rw [heq]
    constructor
    case valid => exact h.valid
    case waiting =>
      intro q hq
      exact h.waiting q (by rw [hlist]; exact List.mem_cons_of_mem _ hq)
    case fresh =>
      rw [hlog]
      exact h.fresh
    case sum =>
      rw [hlog]
      exact h.sum
  | @first w r received store T' he hfirst hpop hnew hstore hT' heq =>
    have hlog := Trace.log_concat_some tr hfirst
    have hlist := WeightQueue.toList_of_pop? hpop
    -- the sender was known when its packet came, and stays so
    have hknown : n.roster.Known r.neighbor :=
      h.waiting r (by rw [hlist]; exact List.mem_cons_self)
    rw [heq]
    constructor
    case valid => exact Roster.valid_bump h.valid _ _
    case waiting =>
      intro q hq
      exact (n.roster.known_bump _ _ _).mpr
        (h.waiting q (by rw [hlist]; exact List.mem_cons_of_mem r hq))
    case fresh =>
      intro q
      rw [hlog, List.countP_append, ← h.fresh, Roster.fresh_tally_bump hknown]
      simp [List.countP_cons]
    case sum =>
      rw [hlog, List.length_append, ← h.sum]
      exact Roster.sum_freshCounts_bump hknown

/-! ## Runs -/

section runs
variable {n : Node} {T : Tables} (hkeeps : n.store.Keeps T) (es : List Event)
include hkeeps

theorem credited_run (h : n.Credited []) : (n.run es).Credited (n.trace es) :=
  run_induction_over hkeeps h (fun _ _ e _ hkeeps hm => credited_step hm hkeeps e) es

theorem outgoing_run :
    (n.run es).outgoing = ((n.trace es).log sending).foldl Sending.apply n.outgoing := by
  refine run_induction_over (P := fun m tr =>
    m.outgoing = (tr.log sending).foldl Sending.apply n.outgoing) hkeeps rfl ?_ es
  -- the queue after one more event is that of the log so far, changed by the event
  intro m tr e T' hkeeps hout
  rw [Trace.log_concat, List.foldl_append, ← hout, outgoing_step hkeeps]

/-- Nothing is lost but what a full queue drops. -/
theorem evicted_of_lost : ∀ r ∈ (n.trace es).log lost, r ∈ (n.trace es).log evicted := by
  refine run_induction_over (P := fun _ tr => ∀ r ∈ tr.log lost, r ∈ tr.log evicted) hkeeps
    (fun _ hr => absurd hr List.not_mem_nil) ?_ es
  intro m tr e T' hkeeps hlost r hr
  rcases Trace.mem_log_concat.mp hr with hr | hr
  · exact Trace.mem_log_concat.mpr (.inl (hlost r hr))
  · refine Trace.mem_log_concat.mpr (.inr ?_)
    simpa [lost, failed_eq_none hkeeps] using hr

omit hkeeps in
/-- What is accepted arrived and is valid. -/
theorem arrived_of_accepted {r : Received} (hr : r ∈ (n.trace es).log accepted) :
    r.transaction.payload ∈ (n.trace es).payloads ∧
      validate n.minWeight r.transaction.payload = .ok r.transaction := by
  obtain ⟨x, hx, hacc⟩ := Trace.mem_log.mp hr
  obtain ⟨harrival, _, hvalid⟩ := accepted_spec hacc
  have hweight := ((n.settings_run es).2 x hx).2
  refine ⟨List.mem_map.mpr ⟨_, Trace.mem_log.mpr ⟨x, hx, harrival⟩, rfl⟩, ?_⟩
  rw [← hweight]
  exact hvalid

omit hkeeps in
/-- When chance drops nothing and no two payloads have the same fingerprint,
    everything valid that arrived was accepted. -/
theorem accepted_of_arrived (hacc : n.Accounted []) (hchance : n.config.dropChance.isZero = true)
    (hdistinct : ∀ p ∈ (n.trace es).payloads, ∀ q ∈ (n.trace es).payloads,
      Sha256.digest p = Sha256.digest q → p = q)
    {p : Bytes} (hp : p ∈ (n.trace es).payloads) {t : Transaction}
    (hvalid : validate n.minWeight p = .ok t) :
    ∃ r ∈ (n.trace es).log accepted, r.transaction = t := by
  have hsettings := n.settings_run es
  -- no packet is dropped by chance, so all that arrive are considered
  have hlog : (n.trace es).log considered = (n.trace es).log arrival := by
    refine Trace.log_congr fun x hx => considered_of_isZero ?_ x.2
    rw [(hsettings.2 x hx).1]
    exact hchance
  obtain ⟨x, hx, rfl⟩ := List.mem_map.mp hp
  rw [← hlog] at hx
  obtain ⟨r, hr, hdigest⟩ := (accounted_run hacc es).considered x hx t
    (by rw [hsettings.1.2]; exact hvalid)
  -- the accepted payload has the same fingerprint, so it is the same
  obtain ⟨harrived, hrvalid⟩ := arrived_of_accepted es hr
  rw [hdistinct _ harrived _ hp hdigest, hvalid] at hrvalid
  exact ⟨r, hr, (Except.ok.inj hrvalid).symm⟩

/-- If moreover the queue dropped nothing and is empty, all of it is stored. -/
theorem stored_of_drained (hacc : n.Accounted []) (hchance : n.config.dropChance.isZero = true)
    (hroom : (n.trace es).log evicted = [])
    (hdistinct : ∀ p ∈ (n.trace es).payloads, ∀ q ∈ (n.trace es).payloads,
      Sha256.digest p = Sha256.digest q → p = q)
    (hdrained : (n.run es).received.toList = []) (h : Hash) :
    (n.run es).store.Stored h ↔
      n.store.Stored h ∨
        ∃ p ∈ (n.trace es).payloads, ∃ t, validate n.minWeight p = .ok t ∧ t.hash = h := by
  have hinv := accounted_run hacc es
  obtain ⟨T', hhistory⟩ := history_run hkeeps es
  have hstored : (n.run es).store.Stored h ↔ n.store.Stored h ∨
      ∃ r ∈ (n.trace es).log firstStored, r.transaction.hash = h := by
    rw [hhistory.keeps.stored_iff, hkeeps.stored_iff, hhistory.stored]
  rw [hstored]
  constructor
  · rintro (hs | ⟨r, hr, rfl⟩)
    · exact .inl hs
    · obtain ⟨harrived, hvalid⟩ := arrived_of_accepted es (hinv.stored r hr)
      exact .inr ⟨_, harrived, _, hvalid, rfl⟩
  · rw [← hstored]
    rintro (hs | ⟨p, hp, t, hvalid, rfl⟩)
    · exact hstored.mpr (.inl hs)
    · obtain ⟨r, hr, rfl⟩ := accepted_of_arrived es hacc hchance hdistinct hp hvalid
      -- it does not wait, as the queue is empty, and it was not lost
      rcases hinv.accepted r hr with (hs | ⟨q, hq, _⟩) | ⟨q, hq, _⟩
      · exact hs
      · rw [hdrained] at hq
        cases hq
      · have := evicted_of_lost hkeeps es q hq
        rw [hroom] at this
        cases this

end runs

/-- Over one fault-free provider every stored hash was stored, credited and
    queued exactly once.  If nothing is dropped and no fingerprint stands for
    two payloads, exactly the valid payloads that arrived are stored. -/
theorem stored_credited_queued_once {store : Store} {T : Tables} (hkeeps : store.Keeps T)
    (config : GossipConfig) (minWeight : Nat) (tips : Tips) (milestones : Milestones)
    (wantedCapacity : Nat) (es : List Event) :
    let start := started config minWeight store tips milestones wantedCapacity
    let n := start.run es
    let tr := start.trace es
    -- stored once
    ((tr.log firstStored).map (·.transaction.hash)).Nodup ∧
    (∀ r ∈ tr.log firstStored, ¬ store.Stored r.transaction.hash) ∧
    (∀ h, n.store.Stored h ↔
      store.Stored h ∨ ∃ r ∈ tr.log firstStored, r.transaction.hash = h) ∧
    -- credited once
    (∀ q : Neighbor,
      (n.roster.tally q).fresh = (tr.log firstStored).countP fun r => r.neighbor.id = q.id) ∧
    (n.roster.tallies.map (·.fresh)).sum = (tr.log firstStored).length ∧
    n.store.totalSize .transaction =
      store.totalSize .transaction + (n.roster.tallies.map (·.fresh)).sum ∧
    -- queued once
    n.outgoing = (tr.log sending).foldl Sending.apply (.empty config.broadcastCapacity) ∧
    ((tr.log sending).filterMap Sending.queued? =
      (tr.log firstStored).map fun r => (r.transaction.hash, r.transaction.payload)) ∧
    -- nothing missed
    (config.dropChance.isZero = true → tr.log evicted = [] →
      (∀ p ∈ tr.payloads, ∀ q ∈ tr.payloads, Sha256.digest p = Sha256.digest q → p = q) →
      n.received.toList = [] →
      ∀ h, n.store.Stored h ↔
        store.Stored h ∨ ∃ p ∈ tr.payloads, ∃ t, validate minWeight p = .ok t ∧ t.hash = h) := by
  intro start n tr
  have hstart : start.store.Keeps T := hkeeps
  obtain ⟨T', hhistory⟩ := history_run hstart es
  have hcredited : n.Credited tr := credited_run hstart es
    (credited_started config minWeight store tips milestones wantedCapacity)
  have hsum : (n.roster.tallies.map (·.fresh)).sum = (tr.log firstStored).length := hcredited.sum
  refine ⟨hhistory.nodup, ?_, ?_, hcredited.fresh, hsum, ?_, outgoing_run hstart es, queued?_log tr,
    ?_⟩
  · intro r hr
    rw [hkeeps.stored_iff]
    exact hhistory.fresh r hr
  · intro h
    rw [hhistory.keeps.stored_iff, hkeeps.stored_iff]
    exact hhistory.stored h
  · rw [hsum, hhistory.keeps.totalSize, hkeeps.totalSize]
    exact hhistory.size
  · exact stored_of_drained hstart es
      (accounted_started config minWeight store tips milestones wantedCapacity)

/-! ### A node with room for everything -/

section arrives

variable {payload : Bytes} {t : Transaction}

theorem trace_arrives (store : Store) (payload : Bytes) :
    (started .standard 0 store .empty .empty 2).trace (arrives payload) =
      [(started .standard 0 store .empty .empty 2, meetsNeighbor),
        (acquainted store, sends payload),
        ((acquainted store).step (sends payload), storesNext)] := rfl

theorem arrival_sends (store : Store) (hlength : payload.length = 1604) :
    (acquainted store).arrival (sends payload) = some (onlyNeighbor, payload) := by
  have hfind : (acquainted store).roster.find? someAddress .datagram = some onlyNeighbor := rfl
  simp only [sends, arrival, Packet.length_encode, hfind, if_true, Option.map_some,
    Packet.payload_encode Hash.null hlength]

theorem payloads_arrives (store : Store) (hlength : payload.length = 1604) :
    ((started .standard 0 store .empty .empty 2).trace (arrives payload)).payloads =
      [payload] := by
  rw [trace_arrives, Trace.payloads, Trace.log_cons, Trace.log_cons, Trace.log_cons]
  simp only [arrival_sends store hlength]
  rfl

/-- A push to an empty queue drops nothing. -/
theorem evicted_of_received {n : Node} {e : Event} {capacity : Nat}
    (hreceived : n.received = .empty capacity) : n.evicted e = none := by
  rw [evicted, Option.bind_eq_none_iff]
  intro r _
  rw [hreceived, WeightQueue.push_empty]

theorem evicted_arrives (store : Store) (payload : Bytes) :
    ((started .standard 0 store .empty .empty 2).trace (arrives payload)).log evicted = [] := by
  have hmeets : (started .standard 0 store .empty .empty 2).evicted meetsNeighbor = none :=
    evicted_of_received rfl
  have hsends : (acquainted store).evicted (sends payload) = none := evicted_of_received rfl
  have hstores : ((acquainted store).step (sends payload)).evicted storesNext = none := by
    rw [evicted, storesNext, accepted_work, Option.bind_none]
  rw [trace_arrives, Trace.log_cons, Trace.log_cons, Trace.log_cons, hmeets, hsends, hstores]
  rfl

theorem pop?_step_sends (store : Store) (hvalid : validate 0 payload = .ok t) :
    ((acquainted store).step (sends payload)).received.pop? =
      some (⟨t, onlyNeighbor⟩, .empty 1000) := by
  obtain ⟨requests, hsend⟩ := step_sends store hvalid
  rw [hsend]
  exact WeightQueue.pop?_push_empty _ _ _

/-- However it goes, storing takes the first transaction from the queue. -/
theorem received_storesNext {n : Node} {r : Received} {received : WeightQueue Received}
    (hpop : n.received.pop? = some (r, received)) : (n.step storesNext).received = received := by
  have hstored : ∀ m : Node, (m.storeReceived r 0).received = m.received := by
    intro m
    unfold storeReceived
    split
    · rfl
    · split
      · rfl
      · next stored store _ =>
        obtain ⟨_, _, _, _, hframe, _⟩ :=
          { m with store, seen := (m.seen.insertHash r.transaction.hash).2 }.onFirstStore_frame
            r.transaction r.neighbor 0
        cases stored with
        | true => simp only [hframe, if_true]
        | false => rfl
  simp only [step, storesNext, perform, storeNext, hpop, Option.map_some, Option.getD_some]
  exact hstored { n with received }

/-- A packet leaves the store alone. -/
theorem store_step_sends (store : Store) (hvalid : validate 0 payload = .ok t) :
    ((acquainted store).step (sends payload)).store = store := by
  obtain ⟨requests, hsend⟩ := step_sends store hvalid
  rw [hsend]
  rfl

/-- Over a provider in memory the transaction is stored. -/
theorem firstStored_storesNext (hvalid : validate 0 payload = .ok t) :
    ((acquainted ⟨[Provider.memory]⟩).step (sends payload)).firstStored storesNext =
      some ⟨t, onlyNeighbor⟩ := by
  have hpop := pop?_step_sends ⟨[Provider.memory]⟩ hvalid
  have hmemory := store_step_sends ⟨[Provider.memory]⟩ hvalid
  obtain ⟨requests, hsend⟩ := step_sends ⟨[Provider.memory]⟩ hvalid
  have hkeeps : Store.Keeps ⟨[Provider.memory]⟩ .empty := Store.keeps_fresh "memory"
  have hnew : ¬ Tables.Stored .empty t.hash := Bool.false_ne_true
  obtain ⟨s', hstore, _⟩ := hkeeps.store_new hnew
  have hseen : ((acquainted ⟨[Provider.memory]⟩).step (sends payload)).seen.containsHash t.hash =
      false := by
    rw [hsend]
    rfl
  exact firstStored_of_store hpop hseen (by rw [hmemory]; exact hstore) _

theorem firstStored_arrives (hvalid : validate 0 payload = .ok t) :
    ((started .standard 0 ⟨[Provider.memory]⟩ .empty .empty 2).trace (arrives payload)).log
      firstStored = [⟨t, onlyNeighbor⟩] := by
  rw [trace_arrives, Trace.log_cons, Trace.log_cons, Trace.log_cons,
    firstStored_storesNext hvalid]
  rfl

end arrives

/-- One packet of a neighbor, with a turn to be stored, is stored in memory. -/
theorem stored_credited_queued_once_zeros :
    ∃ t, validate 0 Transaction.zeros = .ok t ∧
      ((started .standard 0 ⟨[Provider.memory]⟩ .empty .empty 2).run
        (arrives Transaction.zeros)).store.Stored t.hash := by
  obtain ⟨t, hvalid⟩ := validate_zeros
  have hkeeps : Store.Keeps ⟨[Provider.memory]⟩ .empty := Store.keeps_fresh "memory"
  obtain ⟨_, _, _, _, _, _, _, _, hmissed⟩ :=
    stored_credited_queued_once hkeeps .standard 0 .empty .empty 2 (arrives Transaction.zeros)
  have hpayloads := payloads_arrives ⟨[Provider.memory]⟩ (length_of_validate hvalid)
  refine ⟨t, hvalid, (hmissed rfl (evicted_arrives _ _) ?_ ?_ t.hash).mpr (.inr ?_)⟩
  · intro p hp q hq _
    rw [hpayloads] at hp hq
    rw [List.mem_singleton.mp hp, List.mem_singleton.mp hq]
  · rw [run_arrives, received_storesNext (pop?_step_sends _ hvalid)]
    rfl
  · exact ⟨_, by rw [hpayloads]; exact List.mem_cons_self, t, hvalid, rfl⟩

end Node

end TernaryGossip
