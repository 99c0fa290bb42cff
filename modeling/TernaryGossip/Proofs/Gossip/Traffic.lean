import TernaryGossip.Proofs.Gossip.Effect
import TernaryGossip.Proofs.Transaction.Vouched

/-! # What an event does to neighbors and their work

    Transactions and requests wait in queues, each with the neighbor that it
    came from, and the roster counts what neighbors send.  `traffic_step` says
    everything that an event can do to the two queues and to the roster:
    neighbors come and go, a packet is counted and may queue work for the
    neighbor that sent it, or one piece of work is taken. -/

namespace TernaryGossip.Node

/-- What an event does to the roster and the queues of received transactions
    and of requests. -/
inductive Traffic (n n' : Node) : Prop
  /-- Neighbors are made and edited; no work comes or goes. -/
  | edits (hroster : n.roster.Edited n'.roster) (hreceived : n'.received = n.received)
      (hrequests : n'.requests = n.requests)
  /-- The packet of a neighbor is counted.  It may queue a transaction and a
      request that can be read as a hash. -/
  | arrives {q : Neighbor} (hlisted : q ∈ n.roster.listed) (hroster : n'.roster = n.roster.bump q .all)
      (hreceived : n'.received = n.received ∨ ∃ t : Transaction,
        n'.received = (n.received.push (Received.mk t q).priority ⟨t, q⟩).2)
      (hrequests : n'.requests = n.requests ∨ ∃ h : Hash, h.Valid ∧
        n'.requests = (n.requests.push (Request.mk h q).priority ⟨h, q⟩).2)
  /-- The packet of a neighbor is counted, and is not valid. -/
  | refused {q : Neighbor} (hlisted : q ∈ n.roster.listed)
      (hroster : n'.roster = (n.roster.bump q .all).bump q .invalid)
      (hreceived : n'.received = n.received) (hrequests : n'.requests = n.requests)
  /-- A transaction is taken to be stored.  It may count as new, or as
      invalid if the store fails. -/
  | stores {r : Received} (hpop : n.received.pop? = some (r, n'.received))
      (hroster : n'.roster = n.roster ∨ ∃ c, (c = .fresh ∨ c = .invalid) ∧
        n'.roster = n.roster.bump r.neighbor c)
      (hrequests : n'.requests = n.requests)
  /-- A request is taken to be answered.  It may count if it is for any tip. -/
  | answers {r : Request} (hpop : n.requests.pop? = some (r, n'.requests))
      (hroster : n'.roster = n.roster ∨
        r.hash.isNull = true ∧ n'.roster = n.roster.bump r.neighbor .random)
      (hreceived : n'.received = n.received)

/-- Nothing happens to neighbors and their work. -/
theorem Traffic.none {n n' : Node} (hroster : n'.roster = n.roster)
    (hreceived : n'.received = n.received) (hrequests : n'.requests = n.requests) :
    n.Traffic n' := by
  refine .edits ?_ hreceived hrequests
  rw [hroster]
  exact .refl _

/-! ## Packets -/

/-- A packet queues at most one request. -/
theorem requests_queueRequest_cases (n : Node) (q : Neighbor) (hash requested : Hash) :
    (n.queueRequest q hash requested).requests = n.requests ∨ ∃ h : Hash, h.Valid ∧
      (n.queueRequest q hash requested).requests =
        (n.requests.push (Request.mk h q).priority ⟨h, q⟩).2 := by
  rw [requests_queueRequest]
  split
  · next hvalid =>
    refine .inr ⟨if requested = hash then Hash.null else requested, ?_, rfl⟩
    split
    · exact Hash.valid_null
    · exact hvalid
  · exact .inl rfl

/-- Taking a payload queues at most one transaction, or the payload is not
    accepted and counted as invalid. -/
theorem takePayload_cases (n : Node) (q : Neighbor) (payload : Bytes) :
    (∃ seen, n.takePayload q payload = (none, { n with seen }.bump q .invalid)) ∨
    (∃ hash outcome seen received,
      n.takePayload q payload = (some (hash, outcome), { n with seen, received }) ∧
      (received = n.received ∨ ∃ t : Transaction,
        received = (n.received.push (Received.mk t q).priority ⟨t, q⟩).2)) := by
  cases hfound : n.seen.packets.find? (Sha256.digest payload) with
  | some hash => exact .inr ⟨hash, _, _, _, takePayload_known hfound, .inl rfl⟩
  | none =>
    rw [takePayload_unseen (Recent.not_contains_of_find? hfound)]
    cases validate n.minWeight payload with
    | error cause => exact .inl ⟨_, rfl⟩
    | ok t => exact .inr ⟨t.hash, .queued, _, _, rfl, .inr ⟨t, rfl⟩⟩

theorem traffic_receive (n : Node) (draw : Nat) (packet : Bytes) (sender : SocketAddress)
    (kind : TransportKind) : n.Traffic (n.receive draw packet sender kind).2 := by
  unfold receive
  cases hfind : n.roster.find? sender kind with
  | none =>
    simp only
    split
    · exact .edits (n.roster.meet_edited _ _ _) rfl rfl
    · exact .none rfl rfl rfl
  | some q =>
    have hlisted := Roster.mem_of_find? hfind
    simp only
    split
    · exact .arrives hlisted rfl (.inl rfl) (.inl rfl)
    · split
      · exact .refused hlisted rfl rfl rfl
      · rcases (n.bump q .all).takePayload_cases q (Packet.payload packet) with
          ⟨seen, htake⟩ | ⟨hash, outcome, seen, received, htake, hreceived⟩
        · simp only [htake]
          exact .refused hlisted rfl rfl rfl
        · -- the request is queued after the transaction
          simp only [htake]
          have hrequests := { n.bump q .all with seen, received }.requests_queueRequest_cases q hash
            (Packet.request packet)
          rw [queueRequest_eq]
          exact .arrives hlisted rfl hreceived hrequests

/-! ## Tasks -/

theorem traffic_store (n : Node) (w : Surroundings) : n.Traffic (n.perform w .store).2 := by
  unfold perform storeNext
  cases hpop : n.received.pop? with
  | none => exact .none rfl rfl rfl
  | some x =>
    obtain ⟨r, received⟩ := x
    simp only [Option.map_some, Option.getD_some, storeReceived]
    split
    · exact .stores hpop (.inl rfl) rfl
    · split
      · exact .stores hpop (.inr ⟨.invalid, .inr rfl, rfl⟩) rfl
      · split
        · next stored store _ hfirst =>
          -- what follows a first store counts the transaction as new
          obtain ⟨_, _, _, _, hframe, _⟩ :=
            { n with received, store, seen := (n.seen.insertHash r.transaction.hash).2 }.onFirstStore_frame
              r.transaction r.neighbor w.clock
          rw [hframe]
          exact .stores hpop (.inr ⟨.fresh, .inl rfl, rfl⟩) rfl
        · exact .stores hpop (.inl rfl) rfl

theorem traffic_passOn (n : Node) (w : Surroundings) : n.Traffic (n.perform w .passOn).2 := by
  unfold perform broadcastNext
  cases n.outgoing.pop? with
  | none => exact .none rfl rfl rfl
  | some x =>
    obtain ⟨t, outgoing⟩ := x
    -- sending only turns the line of wanted hashes around
    obtain ⟨_, _, heq⟩ := { n with outgoing }.sendAll_eq w.link t w.draws n.roster.listed
    simp only [Option.map_some, Option.getD_some, heq]
    exact .none rfl rfl rfl

theorem traffic_refreshNames (n : Node) (w : Surroundings) :
    n.Traffic (n.perform w .refreshNames).2 := by
  obtain ⟨roster, hroster, heq⟩ := n.refreshNames_eq w.names n.roster.listed
  simp only [perform, heq]
  exact .edits hroster rfl rfl

theorem traffic_answer (n : Node) (w : Surroundings) : n.Traffic (n.perform w .answer).2 := by
  unfold perform answerNext
  cases hpop : n.requests.pop? with
  | none => exact .none rfl rfl rfl
  | some x =>
    obtain ⟨r, requests⟩ := x
    obtain ⟨_, roster, _, hroster, heq⟩ := { n with requests }.answerRequest_eq w.link r w.draws
    simp only [Option.map_some, Option.getD_some, heq]
    exact .answers hpop hroster rfl

/-! ## Every event -/

theorem traffic_step (n : Node) (e : Event) : n.Traffic (n.step e) := by
  cases e with
  | packet draw packet sender kind => exact n.traffic_receive draw packet sender kind
  | work w task =>
    cases task with
    | passOn => exact n.traffic_passOn w
    | requestTips => exact .none rfl rfl rfl
    | refreshNames => exact n.traffic_refreshNames w
    | store => exact n.traffic_store w
    | answer => exact n.traffic_answer w
  | meet uri address configured => exact .edits (n.roster.meet_edited uri address configured) rfl rfl
  | leave address kind => exact .edits (n.roster.remove_edited address kind) rfl rfl
  | markSolid h => exact .none rfl rfl rfl
  | askNext => exact .none rfl rfl rfl

end TernaryGossip.Node
