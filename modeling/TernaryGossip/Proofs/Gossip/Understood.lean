import TernaryGossip.Proofs.Gossip.Once
import TernaryGossip.Proofs.Gossip.Sending

/-! # What is sent is understood

    Two nodes are put together here, one that sends and one that receives.
    The sender is honest and the receiver asks for no more weight.  Then the
    receiver accepts every packet of the sender, finds the hash that the
    sender has for the transaction in it, and queues the request that the
    sender meant.

    A payload that the receiver remembers is not validated again: its hash is
    the one that was remembered with its fingerprint.  That hash is right as
    long as no two payloads that the receiver saw have the same fingerprint. -/

namespace TernaryGossip

theorem Roster.find?_of_listed {r : Roster} {a : Neighbor} (ha : a ∈ r.listed)
    (hkind : a.kind = .datagram) :
    ∃ q, r.find? a.address .datagram = some q ∧ q.address = a.address ∧ q.kind = .datagram := by
  have hself : a.isSender a.address .datagram = true := by simp [Neighbor.isSender, hkind]
  cases hfind : r.find? a.address .datagram with
  | none => exact absurd hself (List.find?_eq_none.mp hfind a ha)
  | some q =>
    have hq := List.find?_some hfind
    simp only [Neighbor.isSender, Bool.and_eq_true, beq_iff_eq] at hq
    exact ⟨q, rfl, hq.2, hq.1⟩

namespace Node

variable {n : Node} {tr : Trace}

/-! ## What is remembered -/

/-- Every remembered hash is that of a payload that arrived, remembered under
    its fingerprint. -/
def Recalls (n : Node) (tr : Trace) : Prop :=
  ∀ x ∈ n.seen.packets.entries, ∃ p ∈ tr.payloads, ∃ t,
    Transaction.decode p = .ok t ∧ x = (Sha256.digest p, t.hash)

theorem Recalls.step (h : n.Recalls tr) (e : Event) : (n.step e).Recalls (tr ++ [(n, e)]) := by
  intro x hx
  rcases n.packets_step e x hx with hx | ⟨r, hr, rfl⟩
  · obtain ⟨p, hp, t, hdecode, rfl⟩ := h x hx
    exact ⟨p, Trace.mem_payloads_concat.mpr (.inl hp), t, hdecode, rfl⟩
  · -- what is accepted arrives with this event
    obtain ⟨harrival, _, hvalid⟩ := accepted_spec hr
    exact ⟨_, Trace.mem_payloads_concat.mpr (.inr ⟨_, harrival⟩), _, decode_of_validate hvalid, rfl⟩

theorem recalls_reaches {start : Node} (hstart : start.seen.packets.entries = [])
    (h : Reaches start n tr) : n.Recalls tr := by
  induction h with
  | start =>
    intro x hx
    rw [hstart] at hx
    cases hx
  | event _ e ih => exact ih.step e
  | told _ _ _ ih => exact ih
  | written _ _ _ _ ih => exact ih

/-! ## Taking and answering a packet -/

/-- The hash that a node finds for the payload of a packet. -/
def derivedHash (n : Node) (neighbor : Neighbor) (packet : Bytes) : Option Hash :=
  ((n.bump neighbor .all).takePayload neighbor (Packet.payload packet)).1.map Prod.fst

/-- The request that is meant by a packet whose transaction has the hash
    `hash`: asking for that very hash asks for any tip. -/
def meant (neighbor : Neighbor) (hash request : Hash) : Request :=
  ⟨if request = hash then Hash.null else request, neighbor⟩

/-- A node accepts a datagram from a neighbor, finds the hash of its
    transaction, and queues what it asks for. -/
structure Understands (n : Node) (draw : Nat) (packet : Bytes) (neighbor : Neighbor)
    (hash request : Hash) : Prop where
  /-- The neighbor is the one that datagrams from its address come from. -/
  sender : n.roster.find? neighbor.address .datagram = some neighbor
  /-- The packet is accepted. -/
  outcome : (n.receive draw packet neighbor.address .datagram).1 = .queued ∨
    (n.receive draw packet neighbor.address .datagram).1 = .duplicate
  /-- The hash is found. -/
  derives : n.derivedHash neighbor packet = some hash
  /-- The request is queued for the neighbor. -/
  answers : (n.receive draw packet neighbor.address .datagram).2.requests =
    (n.requests.push (meant neighbor hash request).priority (meant neighbor hash request)).2

/-- A payload that vouches for a hash is taken for a transaction of that
    hash, whether it is remembered or validated. -/
theorem takes_vouched (hrecalls : n.Recalls tr) {h : Hash} {payload : Bytes}
    (hv : Vouched n.minWeight h payload)
    (hdistinct : ∀ p ∈ payload :: tr.payloads, ∀ q ∈ payload :: tr.payloads,
      Sha256.digest p = Sha256.digest q → p = q) (neighbor : Neighbor) :
    ∃ outcome m, n.takePayload neighbor payload = (some (h, outcome), m) ∧
      (outcome = .queued ∨ outcome = .duplicate) ∧ m.requests = n.requests := by
  obtain ⟨t, hvalid, rfl⟩ := hv
  cases hfound : n.seen.packets.find? (Sha256.digest payload) with
  | none =>
    -- the payload is validated, as it was by whoever vouches for it
    have hnew := Recent.not_contains_of_find? hfound
    exact ⟨_, _, takePayload_new hnew hvalid, .inl rfl, rfl⟩
  | some hash =>
    -- the remembered hash is that of an equal fingerprint, so of this payload
    obtain ⟨p, hp, u, hdecode, heq⟩ := hrecalls _ (Recent.mem_of_find? hfound)
    obtain ⟨hdigest, hhash⟩ := Prod.mk.inj heq
    have hsame : payload = p :=
      hdistinct _ List.mem_cons_self _ (List.mem_cons_of_mem payload hp) hdigest
    rw [← hsame, decode_of_validate hvalid] at hdecode
    cases hdecode
    rw [hhash] at hfound
    exact ⟨_, _, takePayload_known hfound, .inr rfl, rfl⟩

theorem understands (hrecalls : n.Recalls tr) (hdrop : n.config.dropChance.isZero = true)
    {neighbor : Neighbor} (hfind : n.roster.find? neighbor.address .datagram = some neighbor)
    {h request : Hash} {payload : Bytes} (hv : Vouched n.minWeight h payload)
    (hlength : payload.length = 1604) (hrequest : request.Valid)
    (hdistinct : ∀ p ∈ payload :: tr.payloads, ∀ q ∈ payload :: tr.payloads,
      Sha256.digest p = Sha256.digest q → p = q) (draw : Nat) :
    n.Understands draw (Packet.encode payload request) neighbor h request := by
  -- both halves of the packet are read as they were written
  have hpayload := Packet.payload_encode request hlength
  have hkeep := Binary64.happens_of_isZero hdrop draw
  -- the sender is counted before the payload is taken
  obtain ⟨outcome, m, htake, houtcome, hrequests⟩ :=
    takes_vouched (n := n.bump neighbor .all) hrecalls hv hdistinct neighbor
  rw [← hpayload] at htake
  have hreceive := receive_of_take hfind hkeep (Packet.length_encode _ _) htake
  constructor
  case sender => exact hfind
  case outcome =>
    rw [hreceive]
    exact houtcome
  case derives =>
    rw [derivedHash, htake]
    rfl
  case answers =>
    rw [hreceive, Packet.request_encode, requests_queueRequest, if_pos hrequest, hrequests]
    rfl

/-! ## Both nodes -/

/-- One node starts with an empty store and is in any state that it can
    reach; its latest milestone is null or made from balanced trits.  Another
    node asks for no more weight, drops nothing by chance, and lists the first
    one as a neighbor.  Whatever the first one sends, the second one accepts
    and understands, unless two payloads that it saw have the same
    fingerprint; and what answers a request is found to have the hash that
    was asked for. -/
theorem sent_is_understood {store : Store} (hempty : store.Keeps .empty)
    (config config' : GossipConfig) (minWeight minWeight' : Nat) (store' : Store)
    (tips tips' : Tips) (milestones milestones' : Milestones) (wantedCapacity wantedCapacity' : Nat)
    {n n' : Node} {tr tr' : Trace}
    (hn : Reaches (started config minWeight store tips milestones wantedCapacity) n tr)
    (hn' : Reaches (started config' minWeight' store' tips' milestones' wantedCapacity') n' tr')
    (hweight : minWeight' ≤ minWeight) (hdrop : config'.dropChance.isZero = true)
    (hlatest : n.milestones.latestHash.isNull = true ∨
      ∃ ts : Trits, ts.Balanced ∧ n.milestones.latestHash = Hash.ofTrits ts)
    {a : Neighbor} (hlisted : a ∈ n'.roster.listed) (hkind : a.kind = .datagram)
    {w : Surroundings} {task : Task} {d : Delivery} (hd : d ∈ (n.perform w task).1) (draw : Nat)
    (hdistinct : ∀ p ∈ Packet.payload d.packet :: tr'.payloads,
      ∀ q ∈ Packet.payload d.packet :: tr'.payloads, Sha256.digest p = Sha256.digest q → p = q) :
    ∃ t request neighbor, n.Selects w task t ∧ n.MayAsk t request ∧
      d.packet = Packet.encode t.payload request ∧
      neighbor.address = a.address ∧ n'.Understands draw d.packet neighbor t.hash request ∧
      (task = .answer → ∀ r rest, n.requests.pop? = some (r, rest) → r.hash.isNull = false →
        n'.derivedHash neighbor d.packet = some r.hash) := by
  obtain ⟨T, hhonest⟩ := honest_reaches
    (honest_started hempty config minWeight tips milestones wantedCapacity) hn
  have hrecalls : n'.Recalls tr' := recalls_reaches rfl hn'
  obtain ⟨_, hminWeight⟩ := settings_reaches hn
  obtain ⟨hconfig', hminWeight'⟩ := settings_reaches hn'
  obtain ⟨t, hselects, request, hask, hpacket⟩ := perform_sends hd
  have hvouched := hhonest.vouched_of_selects hselects
  have hrequest := hhonest.valid_of_mayAsk hlatest hvouched hask
  obtain ⟨neighbor, hfind, haddress, _⟩ := Roster.find?_of_listed hlisted hkind
  -- the receiver asks for no more weight than the sender did
  have hvouched' : Vouched n'.minWeight t.hash t.payload := by
    rw [hminWeight] at hvouched
    rw [hminWeight']
    exact hvouched.mono hweight
  have hnever : n'.config.dropChance.isZero = true := by
    rw [hconfig']
    exact hdrop
  rw [← haddress] at hfind
  rw [hpacket, Packet.payload_encode request t.length_payload] at hdistinct
  have hunderstands := understands hrecalls hnever hfind hvouched' t.length_payload hrequest
    hdistinct draw
  rw [← hpacket] at hunderstands
  refine ⟨t, request, neighbor, hselects, hask, hpacket, haddress, hunderstands, ?_⟩
  -- a request that is not for any tip is answered with the hash that it names
  rintro rfl r rest hpop hnull
  have hhash := hhonest.hash_of_selects hselects hpop
  rw [target, if_neg (by simp [hnull])] at hhash
  rw [hunderstands.derives, hhash]

/-! ### A transaction that is passed on -/

/-- A link that reaches everyone, and no help with names, time or chance. -/
def plain : Surroundings := ⟨⟨false, []⟩, fun _ => none, 0, fun _ => 0⟩

/-- Once the first transaction of a neighbor is stored in memory, it is its
    turn to be passed on. -/
theorem passesOn_arrives {payload : Bytes} {t : Transaction} (hvalid : validate 0 payload = .ok t) :
    let n := (started .standard 0 ⟨[Provider.memory]⟩ .empty .empty 2).run (arrives payload)
    (∃ t rest, n.outgoing.pop? = some (t, rest)) ∧ n.roster.listed = [onlyNeighbor] ∧
      n.milestones.latestHash.isNull = true := by
  intro n
  have hrun : n = ((acquainted ⟨[Provider.memory]⟩).step (sends payload)).step storesNext :=
    run_arrives _ _
  have hfirst := firstStored_storesNext hvalid
  have hmemory := store_step_sends ⟨[Provider.memory]⟩ hvalid
  have hkeeps : ((acquainted ⟨[Provider.memory]⟩).step (sends payload)).store.Keeps .empty := by
    rw [hmemory]
    exact Store.keeps_fresh "memory"
  obtain ⟨requests, hsend⟩ := step_sends ⟨[Provider.memory]⟩ hvalid
  cases effectOver hkeeps storesNext with
  | aside hnone _ =>
    rw [hnone] at hfirst
    cases hfirst
  | known _ hnone _ _ =>
    rw [hnone] at hfirst
    cases hfirst
  | first _ _ _ _ _ _ heq =>
    rw [hrun, heq, hsend]
    exact ⟨⟨_, _, WeightQueue.pop?_push_empty _ _ _⟩, rfl, rfl⟩

/-- What is passed on is handed to the only neighbor. -/
theorem sends_passOn {t : Transaction} {rest : WeightQueue Transaction}
    (hpop : n.outgoing.pop? = some (t, rest)) (hlisted : n.roster.listed = [onlyNeighbor]) :
    ∃ d, d ∈ (n.perform plain .passOn).1 := by
  unfold perform broadcastNext
  rw [hpop, hlisted]
  exact ⟨_, List.mem_singleton.mpr rfl⟩

/-- The transaction is passed on to a node that has met the sender, which
    understands it. -/
theorem sent_is_understood_zeros :
    let n := (started .standard 0 ⟨[Provider.memory]⟩ .empty .empty 2).run
      (arrives Transaction.zeros)
    ∃ d ∈ (n.perform plain .passOn).1, ∃ (t : Transaction) (request : Hash) (neighbor : Neighbor),
      d.packet = Packet.encode t.payload request ∧
      (acquainted ⟨[Provider.memory]⟩).Understands 0 d.packet neighbor t.hash request := by
  intro n
  obtain ⟨_, hvalid⟩ := validate_zeros
  obtain ⟨⟨_, _, hpop⟩, hlisted, hlatest⟩ := passesOn_arrives hvalid
  obtain ⟨d, hd⟩ := sends_passOn hpop hlisted
  have hkeeps : Store.Keeps ⟨[Provider.memory]⟩ .empty := Store.keeps_fresh "memory"
  have hn := reaches_run (started .standard 0 ⟨[Provider.memory]⟩ .empty .empty 2)
    (arrives Transaction.zeros)
  have hn' : Reaches _ (acquainted ⟨[Provider.memory]⟩) _ := .event .start meetsNeighbor
  have hmet : onlyNeighbor ∈ (acquainted ⟨[Provider.memory]⟩).roster.listed :=
    List.mem_singleton.mpr rfl
  -- the receiver has seen nothing yet
  have hdistinct : ∀ p ∈ [Packet.payload d.packet], ∀ q ∈ [Packet.payload d.packet],
      Sha256.digest p = Sha256.digest q → p = q := by
    intro p hp q hq _
    rw [List.mem_singleton.mp hp, List.mem_singleton.mp hq]
  obtain ⟨t, request, neighbor, _, _, hpacket, _, hunderstands, _⟩ :=
    sent_is_understood hkeeps .standard .standard 0 0 ⟨[Provider.memory]⟩ .empty .empty .empty .empty
      2 2 hn hn' (Nat.le_refl 0) rfl (.inl hlatest) hmet rfl hd 0 hdistinct
  exact ⟨d, hd, t, request, neighbor, hpacket, hunderstands⟩

end Node

end TernaryGossip
