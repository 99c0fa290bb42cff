import TernaryGossip.Proofs.Gossip.Accepted
import TernaryGossip.Proofs.Gossip.Traffic
import TernaryGossip.Proofs.Trit.HashForm

/-! # The rank of requests

    A packet may ask for any 49 bytes that are packed groups of trits, and
    a request waits under the weight of the hash that it asks for.  A request
    for any tip asks for the null hash, which weighs 243, as much as a hash
    can.  Of the hashes that are made from trits no other weighs as much, so
    any other request for such a hash waits behind.

    A hash whose last byte holds more than three trits need not.  Of these
    there are some that weigh as much as the null hash, and then the last
    byte decides: read as a signed number, the greater one comes first. -/

namespace TernaryGossip

namespace Request

theorem sortKey_priority (r : Request) :
    r.priority.sortKey = -(r.hash.weight : Int) :: -SignedByte.value r.hash.lastByte ::
      (r.hash.front.reverse.map (fun b => -SignedByte.value b) ++
        Priority.originKey (some r.neighbor.address)) := by
  rw [Priority.sortKey, priority, r.hash.bytes_eq]
  simp

/-- A request comes before a request for any tip if it is as heavy and has a
    positive last byte. -/
theorem before_null_iff {r : Request} (hvalid : r.hash.Valid) (hne : r.hash ≠ Hash.null)
    (q : Neighbor) :
    compare r.priority (Request.mk Hash.null q).priority = .lt ↔
      r.hash.weight = 243 ∧ 0 < SignedByte.value r.hash.lastByte := by
  have hle := r.hash.weight_le
  have hnull : Hash.null.weight = 243 := (Hash.weight_eq_iff Hash.trits_null).mpr rfl
  have hlast : SignedByte.value Hash.null.lastByte = 0 := by decide
  rw [Priority.compare_def, sortKey_priority, sortKey_priority, List.compare_cons_cons,
    List.compare_cons_cons, Ordering.then_eq_lt, Ordering.then_eq_lt, Int.compare_eq_lt,
    Int.compare_eq_lt, Int.compare_eq_eq, Int.compare_eq_eq]
  simp only [hnull, hlast]
  -- weights are compared first, and of equal ones the last bytes
  constructor
  · rintro (hheavier | ⟨hequal, hgreater | ⟨hsame, -⟩⟩)
    · omega
    · exact ⟨by omega, by omega⟩
    · -- the bytes in front need not be looked at
      exact absurd (Hash.eq_null_of_weight_top hvalid (by omega) (by omega)) hne
  · rintro ⟨htop, hpositive⟩
    exact .inr ⟨by omega, .inl (by omega)⟩

end Request

namespace Node

/-! ## What waits is valid -/

/-- Every request that waits is for a valid hash. -/
theorem valid_requests_step {n : Node} (h : ∀ r ∈ n.requests.toList, r.hash.Valid) (e : Event) :
    ∀ r ∈ (n.step e).requests.toList, r.hash.Valid := by
  cases n.traffic_step e with
  | edits _ _ hrequests =>
    rw [hrequests]
    exact h
  | arrives _ _ _ hrequests =>
    rcases hrequests with heq | ⟨g, hg, heq⟩
    · rw [heq]
      exact h
    · rw [heq]
      intro r hr
      rcases WeightQueue.mem_of_mem_toList_push hr with rfl | hr
      · exact hg
      · exact h r hr
  | refused _ _ _ hrequests =>
    rw [hrequests]
    exact h
  | stores _ _ hrequests =>
    rw [hrequests]
    exact h
  | answers hpop => exact fun r hr => h r (WeightQueue.mem_of_mem_pop hpop hr)

theorem valid_requests_run (config : GossipConfig) (minWeight : Nat) (store : Store) (tips : Tips)
    (milestones : Milestones) (wantedCapacity : Nat) (es : List Event) :
    ∀ r ∈ ((started config minWeight store tips milestones wantedCapacity).run es).requests.toList,
      r.hash.Valid :=
  run_induction (P := fun m _ => ∀ r ∈ m.requests.toList, r.hash.Valid)
    (fun _ hr => absurd hr List.not_mem_nil) (fun _ _ e h => valid_requests_step h e) es

/-- A valid hash is made from its trits if and only if its last byte packs
    three of them.  Two valid hashes have the same trits, and the same text,
    if and only if they differ in the last byte alone, by a multiple of 27;
    so canonical ones are told apart.

    Every request that waits in a reachable state is for a valid hash.  It
    weighs as much as a request for any tip if and only if its hash is
    zero but for a multiple of 27 at the end, so if the hash is canonical
    only if it is for any tip itself; and it comes before one only if the
    multiple is positive. -/
theorem requested_hashes_ranked (config : GossipConfig) (minWeight : Nat) (store : Store)
    (tips : Tips) (milestones : Milestones) (wantedCapacity : Nat) (es : List Event) :
    let n := (started config minWeight store tips milestones wantedCapacity).run es
    (∀ h : Hash, h.Valid →
      ∃ ts, h.trits = .ok ts ∧ (Hash.ofTrits ts = h ↔ h.Canonical)) ∧
    (∀ a b : Hash, a.Valid → b.Valid →
      (a.trits = b.trits ↔ a.front = b.front ∧
        SignedByte.value a.lastByte % 27 = SignedByte.value b.lastByte % 27) ∧
      (a.toTrytes = b.toTrytes ↔ a.trits = b.trits) ∧
      (a.Canonical → b.Canonical → a.trits = b.trits → a = b)) ∧
    ∀ r ∈ n.requests.toList,
      r.hash.Valid ∧ r.hash.weight ≤ 243 ∧
      (r.hash.weight = 243 ↔
        r.hash.front = List.replicate 48 0 ∧ 27 ∣ SignedByte.value r.hash.lastByte) ∧
      (r.hash.Canonical → (r.hash.weight = 243 ↔ r.hash = Hash.null)) ∧
      (r.hash ≠ Hash.null → ∀ q : Neighbor,
        compare r.priority (Request.mk Hash.null q).priority = .lt ↔
          r.hash.weight = 243 ∧ 0 < SignedByte.value r.hash.lastByte) := by
  intro n
  refine ⟨fun h hvalid => ?_, fun a b ha hb => ?_, fun r hr => ?_⟩
  · obtain ⟨ts, htrits⟩ := Hash.exists_trits_iff.mpr hvalid
    exact ⟨ts, htrits, Hash.ofTrits_eq_iff htrits⟩
  · obtain ⟨ts, htrits⟩ := Hash.exists_trits_iff.mpr ha
    obtain ⟨us, htrits'⟩ := Hash.exists_trits_iff.mpr hb
    have hsame : a.trits = b.trits ↔ ts = us := by
      rw [htrits, htrits', Except.ok.injEq]
    refine ⟨hsame.trans (Hash.trits_eq_iff htrits htrits'),
      (Hash.toTrytes_eq_iff htrits htrits').trans hsame.symm, fun hca hcb heq => ?_⟩
    exact Hash.eq_of_canonical hca hcb (heq.trans htrits') htrits'
  · have hvalid := valid_requests_run config minWeight store tips milestones wantedCapacity es r hr
    exact ⟨hvalid, r.hash.weight_le, Hash.weight_top_iff hvalid,
      fun hcanonical => hcanonical.weight_top_iff_null hvalid,
      fun hne q => Request.before_null_iff hvalid hne q⟩

/-! ### Beside the null hash -/

/-- Zeros, with one in the place after the last trit. -/
def beyondNull : Hash := ⟨List.replicate 48 0 ++ [27], by simp⟩

theorem front_beyondNull : beyondNull.front = List.replicate 48 0 := List.dropLast_concat

theorem valid_beyondNull : beyondNull.Valid := by
  intro x hx
  rcases List.mem_append.mp hx with hx | hx
  · rw [List.eq_of_mem_replicate hx]
    decide
  · rw [List.mem_singleton.mp hx]
    decide

theorem weight_beyondNull : beyondNull.weight = 243 :=
  (Hash.weight_top_iff valid_beyondNull).mpr ⟨front_beyondNull, by decide⟩

/-- The neighbor asks for this hash. -/
def asksBeyondNull : Event :=
  .packet 0 (Packet.encode Transaction.zeros beyondNull) someAddress .datagram

/-- The request waits as it was sent. -/
theorem mem_requests_asksBeyondNull :
    let r : Request := ⟨beyondNull, onlyNeighbor⟩
    r ∈ ((started .standard 0 ⟨[Provider.memory]⟩ .empty .empty 2).run
      [meetsNeighbor, asksBeyondNull]).requests.toList := by
  intro r
  obtain ⟨t, hvalid⟩ := validate_zeros
  -- the hash of a transaction is canonical, so this is not the one of the packet itself
  have hproper : t.hash.Proper := by
    rw [(Transaction.decode_ok_iff.mp (decode_of_validate hvalid)).2]
    exact ⟨_, Hash.balanced_squeezeTrits _, rfl⟩
  have hother : beyondNull ≠ t.hash := by
    intro heq
    rw [← heq] at hproper
    exact absurd (Hash.proper_iff.mp hproper).2 (by decide)
  have hpayload : Packet.payload (Packet.encode Transaction.zeros beyondNull) = Transaction.zeros :=
    Packet.payload_encode _ List.length_replicate
  have hreceive : (acquainted ⟨[Provider.memory]⟩).receive 0
      (Packet.encode Transaction.zeros beyondNull) someAddress .datagram = (.queued, _) :=
    receive_new rfl (standard_never_drops 0) (Packet.length_encode _ _) rfl
      (by rw [hpayload]; exact hvalid)
  rw [run_cons, run_cons, run_nil, ← acquainted, asksBeyondNull, step, hreceive]
  simp only
  rw [requests_queueRequest, Packet.request_encode, if_pos valid_beyondNull, if_neg hother]
  -- it is the only request
  have hmem : r ∈ ((WeightQueue.empty 1000).push r.priority r).2.toList := by
    rw [WeightQueue.toList_of_pop? (WeightQueue.pop?_push_empty 1000 r.priority r)]
    exact List.mem_cons_self
  exact hmem

/-- The request weighs as much as one for any tip, and comes before it. -/
theorem requested_hashes_ranked_beyondNull :
    beyondNull.Valid ∧ ¬ beyondNull.Canonical ∧ beyondNull.weight = 243 ∧
      beyondNull.toTrytes = Hash.null.toTrytes ∧
      compare (Request.mk beyondNull onlyNeighbor).priority
        (Request.mk Hash.null onlyNeighbor).priority = .lt := by
  obtain ⟨-, hpairs, hwaiting⟩ := requested_hashes_ranked .standard 0 ⟨[Provider.memory]⟩ .empty
    .empty 2 [meetsNeighbor, asksBeyondNull]
  obtain ⟨hvalid, -, htop, -, hbefore⟩ := hwaiting _ mem_requests_asksBeyondNull
  obtain ⟨htrits, htext, -⟩ := hpairs beyondNull Hash.null hvalid Hash.valid_null
  have hweight := htop.mpr ⟨front_beyondNull, by decide⟩
  refine ⟨hvalid, by decide, hweight, ?_, (hbefore (by decide) _).mpr ⟨hweight, by decide⟩⟩
  exact htext.mpr (htrits.mpr ⟨by rw [front_beyondNull]; decide, by decide⟩)

/-- A valid hash other than the null hash has its trits, and from these the
    null hash is made.  It weighs as much, and a request for it waits before
    requests for any tip. -/
theorem beyondNull_outranks_null :
    beyondNull.Valid ∧ beyondNull ≠ Hash.null ∧
      (∃ ts, beyondNull.trits = .ok ts ∧ Hash.null.trits = .ok ts ∧
        Hash.ofTrits ts = Hash.null) ∧
      beyondNull.weight = 243 ∧
      Request.mk beyondNull onlyNeighbor ∈ ((started .standard 0 ⟨[Provider.memory]⟩ .empty
        .empty 2).run [meetsNeighbor, asksBeyondNull]).requests.toList ∧
      compare (Request.mk beyondNull onlyNeighbor).priority
        (Request.mk Hash.null onlyNeighbor).priority = .lt := by
  have hne : beyondNull ≠ Hash.null := by decide
  obtain ⟨ts, htrits⟩ := Hash.exists_trits_iff.mpr valid_beyondNull
  have hnull : Hash.null.trits = .ok ts := by
    rw [(Hash.weight_eq_iff htrits).mp weight_beyondNull]
    exact Hash.trits_null
  refine ⟨valid_beyondNull, hne, ⟨ts, htrits, hnull, ?_⟩, weight_beyondNull,
    mem_requests_asksBeyondNull, ?_⟩
  · exact (Hash.ofTrits_eq_iff hnull).mpr (by decide)
  · exact (Request.before_null_iff valid_beyondNull hne _).mpr ⟨weight_beyondNull, by decide⟩

end Node

end TernaryGossip
