import TernaryGossip.Proofs.Gossip.Once

/-! # What is remembered is what would be found

    The hash of a payload that was seen before is read from memory, and the
    payload is not looked at again.  An entry of the memory was made when
    some payload of its fingerprint was accepted, whatever was looked up,
    moved to the front or forgotten since.  So as long as no two payloads
    that were processed have one fingerprint, the remembered hash is the
    hash that checking the payload would give, and the request of the packet
    is read in the same way. -/

namespace TernaryGossip.Node

/-! ## The remembered hash -/

/-- A hash is remembered for a payload only if checking the payload gives
    this hash, unless another payload of its fingerprint was processed. -/
theorem validate_of_remembered {n : Node} (hacc : n.Accounted []) (es : List Event)
    {payload : Bytes} {hash : Hash}
    (hunique : ∀ x ∈ (n.trace es).log considered,
      Sha256.digest x.2 = Sha256.digest payload → x.2 = payload)
    (hfound : (n.run es).seen.packets.find? (Sha256.digest payload) = some hash) :
    ∃ t, validate n.minWeight payload = .ok t ∧ t.hash = hash := by
  obtain ⟨r, hr, heq⟩ := (accounted_run hacc es).packets _ (Recent.mem_of_find? hfound)
  obtain ⟨hdigest, hhash⟩ := Prod.mk.inj heq
  obtain ⟨x, hx, haccepted⟩ := Trace.mem_log.mp hr
  have hconsidered := Trace.mem_log.mpr ⟨x, hx, considered_of_accepted haccepted⟩
  have hsame : r.transaction.payload = payload := hunique _ hconsidered hdigest.symm
  obtain ⟨-, hvalid⟩ := arrived_of_accepted es hr
  rw [hsame] at hvalid
  exact ⟨r.transaction, hvalid, hhash.symm⟩

/-! ## The two paths -/

section packets
variable {n : Node} {draw : Nat} {packet : Bytes} {sender : SocketAddress} {kind : TransportKind}
  {neighbor : Neighbor} (hfind : n.roster.find? sender kind = some neighbor)
  (hkeep : n.config.dropChance.happens draw = false) (hlength : packet.length = 1653)
include hfind hkeep hlength

/-- A remembered payload is a duplicate, and the request beside it is read
    with the remembered hash. -/
theorem receive_remembered {hash : Hash}
    (hfound : n.seen.packets.find? (Sha256.digest (Packet.payload packet)) = some hash) :
    (n.receive draw packet sender kind).1 = .duplicate ∧
      (n.receive draw packet sender kind).2.requests =
        (n.queueRequest neighbor hash (Packet.request packet)).requests := by
  rw [receive_of_take hfind hkeep hlength (takePayload_known (n := n.bump neighbor .all) hfound)]
  rw [requests_queueRequest, requests_queueRequest]
  exact ⟨rfl, rfl⟩

/-- A payload that is not remembered and is accepted is queued, and the
    request beside it is read with its own hash. -/
theorem receive_checked {t : Transaction}
    (hnew : n.seen.packets.contains (Sha256.digest (Packet.payload packet)) = false)
    (hvalid : validate n.minWeight (Packet.payload packet) = .ok t) :
    (n.receive draw packet sender kind).1 = .queued ∧
      (n.receive draw packet sender kind).2.requests =
        (n.queueRequest neighbor t.hash (Packet.request packet)).requests := by
  rw [receive_new hfind hkeep hlength hnew hvalid]
  rw [requests_queueRequest, requests_queueRequest]
  exact ⟨rfl, rfl⟩

end packets

/-- In every reachable state, if the payload of a packet is remembered then
    it is valid and the remembered hash is its own, unless another payload of
    its fingerprint was processed before.  The packet leaves the same
    requests as it would if the payload had been forgotten. -/
theorem remembered_as_validated (config : GossipConfig) (minWeight : Nat) (store : Store)
    (tips : Tips) (milestones : Milestones) (wantedCapacity : Nat) (es : List Event)
    (draw : Nat) (packet : Bytes) (sender : SocketAddress) (kind : TransportKind) :
    let start := started config minWeight store tips milestones wantedCapacity
    let n := start.run es
    let payload := Packet.payload packet
    ∀ (neighbor : Neighbor) (hash : Hash),
      n.roster.find? sender kind = some neighbor →
      n.config.dropChance.happens draw = false →
      packet.length = 1653 →
      (∀ x ∈ (start.trace es).log considered,
        Sha256.digest x.2 = Sha256.digest payload → x.2 = payload) →
      n.seen.packets.find? (Sha256.digest payload) = some hash →
      (∃ t, validate minWeight payload = .ok t ∧ t.hash = hash) ∧
      (n.receive draw packet sender kind).1 = .duplicate ∧
      ∀ seen : Seen, seen.packets.contains (Sha256.digest payload) = false →
        ({ n with seen }.receive draw packet sender kind).1 = .queued ∧
        ({ n with seen }.receive draw packet sender kind).2.requests =
          (n.receive draw packet sender kind).2.requests := by
  intro start n payload neighbor hash hfind hkeep hlength hunique hfound
  have hacc : start.Accounted [] :=
    accounted_started config minWeight store tips milestones wantedCapacity
  obtain ⟨t, hvalid, rfl⟩ := validate_of_remembered hacc es hunique hfound
  obtain ⟨hduplicate, hremembered⟩ := receive_remembered hfind hkeep hlength hfound
  refine ⟨⟨t, hvalid, rfl⟩, hduplicate, fun seen hnew => ?_⟩
  -- the required weight is the same all along the run
  have hweight : n.minWeight = minWeight := (start.settings_run es).1.2
  obtain ⟨hqueued, hchecked⟩ := receive_checked (n := { n with seen }) hfind hkeep hlength hnew
    (by rw [hweight]; exact hvalid)
  refine ⟨hqueued, ?_⟩
  rw [hchecked, hremembered, requests_queueRequest, requests_queueRequest]

/-- The payload of zeros is remembered once it has arrived, and forgetting it
    changes no request. -/
theorem remembered_as_validated_zeros :
    let n := (started .standard 0 ⟨[Provider.memory]⟩ .empty .empty 2).run
      [meetsNeighbor, sends Transaction.zeros]
    let packet := Packet.encode Transaction.zeros Hash.null
    (∃ t, validate 0 Transaction.zeros = .ok t ∧
      n.seen.packets.find? (Sha256.digest Transaction.zeros) = some t.hash) ∧
    ({ n with seen := .empty 1 1 }.receive 0 packet someAddress .datagram).2.requests =
      (n.receive 0 packet someAddress .datagram).2.requests := by
  obtain ⟨t, hvalid⟩ := validate_zeros
  obtain ⟨requests, hsend⟩ := step_sends ⟨[Provider.memory]⟩ hvalid
  have hrun : (started .standard 0 ⟨[Provider.memory]⟩ .empty .empty 2).run
      [meetsNeighbor, sends Transaction.zeros] =
        (acquainted ⟨[Provider.memory]⟩).step (sends Transaction.zeros) := by
    rw [run_cons, run_cons, run_nil, acquainted]
  have hseen := contains_step_sends ⟨[Provider.memory]⟩ hvalid
  obtain ⟨hash, hfound⟩ := Option.isSome_iff_exists.mp hseen
  -- no other payload was processed
  have hunique : ∀ x ∈ ((started .standard 0 ⟨[Provider.memory]⟩ .empty .empty 2).trace
      [meetsNeighbor, sends Transaction.zeros]).log considered,
      Sha256.digest x.2 = Sha256.digest Transaction.zeros → x.2 = Transaction.zeros := by
    intro x hx _
    obtain ⟨y, hy, hconsidered⟩ := Trace.mem_log.mp hx
    have harrival := arrival_of_considered hconsidered
    rcases List.mem_cons.mp hy with rfl | hy
    · cases harrival
    · obtain rfl : y = (acquainted ⟨[Provider.memory]⟩, sends Transaction.zeros) :=
        List.mem_singleton.mp hy
      rw [arrival_sends _ (length_of_validate hvalid)] at harrival
      cases harrival
      rfl
  have hfind : ((acquainted ⟨[Provider.memory]⟩).step (sends Transaction.zeros)).roster.find?
      someAddress .datagram = some onlyNeighbor := by
    rw [hsend]
    rfl
  have hkeep : ((acquainted ⟨[Provider.memory]⟩).step
      (sends Transaction.zeros)).config.dropChance.happens 0 = false := by
    rw [hsend]
    exact standard_never_drops 0
  have hmain := remembered_as_validated .standard 0 ⟨[Provider.memory]⟩ .empty .empty 2
    [meetsNeighbor, sends Transaction.zeros] 0 (Packet.encode Transaction.zeros Hash.null)
    someAddress .datagram
  simp only [hrun, payload_zeros] at hmain ⊢
  obtain ⟨⟨t', hvalid', rfl⟩, -, hagain⟩ :=
    hmain onlyNeighbor hash hfind hkeep (Packet.length_encode _ _) hunique hfound
  exact ⟨⟨t', hvalid', hfound⟩, (hagain (.empty 1 1) rfl).2⟩

end TernaryGossip.Node
