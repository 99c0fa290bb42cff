import TernaryGossip.Proofs.Gossip.FirstStore
import TernaryGossip.Proofs.Gossip.Run

/-! # What an event can do

    An event either leaves the store alone, or it is the task that takes the
    first received transaction to store it.  The task can go in four ways:
    the hash was stored recently, the store fails, the transaction is stored
    already, or it is stored for the first time.  `effect` says so, with
    everything that changes in each case. -/

namespace TernaryGossip.Node

/-- An event that takes no transaction to store it. -/
structure Aside (n : Node) (e : Event) (n' : Node) : Prop where
  config : n'.config = n.config
  minWeight : n'.minWeight = n.minWeight
  store : n'.store = n.store
  hashes : n'.seen.hashes = n.seen.hashes
  packets : ∀ x ∈ n'.seen.packets.entries, x ∈ n.seen.packets.entries ∨
    ∃ r, n.accepted e = some r ∧ x = (Sha256.digest r.transaction.payload, r.transaction.hash)
  received : n'.received =
    match n.accepted e with
    | some r => (n.received.push r.priority r).2
    | none => n.received
  wanted : n.wanted.Turned n'.wanted
  roster : n.roster.Grows n'.roster
  tips : n'.tips = match e with | .markSolid h => (n.tips.markSolid h).2 | _ => n.tips
  outgoing : n'.outgoing =
    match e with
    | .work _ .passOn => (n.outgoing.pop?.map (·.2)).getD n.outgoing
    | _ => n.outgoing

/-- What waits afterwards waited before or is accepted now. -/
theorem Aside.mem_received {n n' : Node} {e : Event} (h : n.Aside e n') {r : Received}
    (hr : r ∈ n'.received.toList) : n.accepted e = some r ∨ r ∈ n.received.toList := by
  rw [h.received] at hr
  split at hr
  · next q hq =>
    rcases WeightQueue.mem_of_mem_toList_push hr with rfl | hr
    · exact .inl hq
    · exact .inr hr
  · exact .inr hr

/-- Everything that an event can do. -/
inductive Effect (n : Node) (e : Event) (n' : Node) : Prop
  /-- Nothing is taken to be stored. -/
  | aside (hstoring : n.storing e = none) (h : n.Aside e n')
  /-- The hash was stored recently. -/
  | recent {w : Surroundings} {r : Received} {received : WeightQueue Received}
      (he : e = .work w .store) (hpop : n.received.pop? = some (r, received))
      (hseen : n.seen.containsHash r.transaction.hash = true)
      (heq : n' = { n with received })
  /-- The store fails. -/
  | fails {w : Surroundings} {r : Received} {received : WeightQueue Received}
      {cause : StorageError} {store : Store}
      (he : e = .work w .store) (hpop : n.received.pop? = some (r, received))
      (hseen : n.seen.containsHash r.transaction.hash = false)
      (hstore : r.transaction.store n.store = (.error cause, store))
      (heq : n' = { n with received, store }.bump r.neighbor .invalid)
  /-- The transaction is stored already, or its storing is not confirmed. -/
  | known {w : Surroundings} {r : Received} {received : WeightQueue Received} {store : Store}
      (he : e = .work w .store) (hpop : n.received.pop? = some (r, received))
      (hseen : n.seen.containsHash r.transaction.hash = false)
      (hstore : r.transaction.store n.store = (.ok false, store))
      (heq : n' = { n with received, store, seen := (n.seen.insertHash r.transaction.hash).2 })
  /-- The transaction is stored for the first time. -/
  | first {w : Surroundings} {r : Received} {received : WeightQueue Received} {store : Store}
      (he : e = .work w .store) (hpop : n.received.pop? = some (r, received))
      (hseen : n.seen.containsHash r.transaction.hash = false)
      (hstore : r.transaction.store n.store = (.ok true, store))
      (heq : n' =
        { n with received, store, seen := (n.seen.insertHash r.transaction.hash).2 }.onFirstStore
          r.transaction r.neighbor w.clock)

/-! ## Packets -/

theorem queueRequest_eq (n : Node) (neighbor : Neighbor) (hash requested : Hash) :
    n.queueRequest neighbor hash requested =
      { n with requests := (n.queueRequest neighbor hash requested).requests } := by
  unfold queueRequest
  split <;> rfl

/-- What is asked for is read from the packet and its hash alone. -/
theorem requests_queueRequest (n : Node) (neighbor : Neighbor) (hash requested : Hash) :
    (n.queueRequest neighbor hash requested).requests =
      if requested.Valid then
        let r : Request := ⟨if requested = hash then Hash.null else requested, neighbor⟩
        (n.requests.push r.priority r).2
      else n.requests := by
  unfold queueRequest
  split <;> rfl

variable {n : Node} {draw : Nat} {packet : Bytes} {sender : SocketAddress} {kind : TransportKind}

/-- A payload that is remembered has the hash that is remembered with it. -/
theorem takePayload_known {neighbor : Neighbor} {payload : Bytes} {hash : Hash}
    (hfound : n.seen.packets.find? (Sha256.digest payload) = some hash) :
    n.takePayload neighbor payload =
      (some (hash, .duplicate),
        { n with seen := (n.seen.lookupPacket (Sha256.digest payload)).2 }) := by
  rw [← Seen.lookupPacket_fst] at hfound
  unfold takePayload
  cases hlook : n.seen.lookupPacket (Sha256.digest payload) with
  | mk found seen =>
    rw [hlook] at hfound
    simp only at hfound
    simp [hlook, hfound]

/-- A payload that is not remembered is checked. -/
theorem takePayload_unseen {neighbor : Neighbor} {payload : Bytes}
    (hnew : n.seen.packets.contains (Sha256.digest payload) = false) :
    n.takePayload neighbor payload =
      match validate n.minWeight payload with
      | .error _ => (none,
          { n with seen := (n.seen.lookupPacket (Sha256.digest payload)).2 }.bump neighbor
            .invalid)
      | .ok t => (some (t.hash, .queued),
          { n with
            seen := (n.seen.lookupPacket (Sha256.digest payload)).2.insertPacket
              (Sha256.digest payload) t.hash
            received := (n.received.push (Received.mk t neighbor).priority ⟨t, neighbor⟩).2 }) := by
  have hfound := n.seen.lookupPacket_fst (Sha256.digest payload)
  rw [Recent.contains, Option.isSome_eq_false_iff, Option.isNone_iff_eq_none] at hnew
  rw [hnew] at hfound
  unfold takePayload
  cases hlook : n.seen.lookupPacket (Sha256.digest payload) with
  | mk found seen =>
    rw [hlook] at hfound
    obtain rfl : found = none := hfound
    cases validate n.minWeight payload with
    | error cause => simp only [hlook]
    | ok t => simp only [hlook]

/-- A payload that is not remembered and is accepted is remembered and queued. -/
theorem takePayload_new {neighbor : Neighbor} {payload : Bytes} {t : Transaction}
    (hnew : n.seen.packets.contains (Sha256.digest payload) = false)
    (hvalid : validate n.minWeight payload = .ok t) :
    n.takePayload neighbor payload =
      (some (t.hash, .queued),
        { n with
          seen := (n.seen.lookupPacket (Sha256.digest payload)).2.insertPacket
            (Sha256.digest payload) t.hash
          received := (n.received.push (Received.mk t neighbor).priority ⟨t, neighbor⟩).2 }) := by
  rw [takePayload_unseen hnew, hvalid]

/-- A packet that is not accepted changes counts, queues a request, or
    refreshes what was seen before. -/
theorem aside_of_not_accepted {seen : Seen} {roster : Roster} {requests : WeightQueue Request}
    (haccepted : n.accepted (.packet draw packet sender kind) = none)
    (hroster : n.roster.Grows roster) (hhashes : seen.hashes = n.seen.hashes)
    (hpackets : ∀ x ∈ seen.packets.entries, x ∈ n.seen.packets.entries) :
    n.Aside (.packet draw packet sender kind) { n with seen, roster, requests } where
  config := rfl
  minWeight := rfl
  store := rfl
  hashes := hhashes
  packets := fun x hx => .inl (hpackets x hx)
  received := by rw [haccepted]
  wanted := .refl _
  roster := hroster
  tips := rfl
  outgoing := rfl

/-- An accepted packet is queued and its payload remembered. -/
theorem aside_of_accepted {r : Received} {roster : Roster} {requests : WeightQueue Request}
    {seen : Seen} (haccepted : n.accepted (.packet draw packet sender kind) = some r)
    (hroster : n.roster.Grows roster) (hhashes : seen.hashes = n.seen.hashes)
    (hpackets : ∀ x ∈ seen.packets.entries, x ∈ n.seen.packets.entries ∨
      x = (Sha256.digest r.transaction.payload, r.transaction.hash)) :
    n.Aside (.packet draw packet sender kind)
      { n with seen, roster, requests, received := (n.received.push r.priority r).2 } where
  config := rfl
  minWeight := rfl
  store := rfl
  hashes := hhashes
  packets := by
    intro x hx
    rcases hpackets x hx with hx | hx
    · exact .inl hx
    · exact .inr ⟨r, haccepted, hx⟩
  received := by rw [haccepted]
  wanted := .refl _
  roster := hroster
  tips := rfl
  outgoing := rfl

theorem accepted_packet {neighbor : Neighbor} (hfind : n.roster.find? sender kind = some neighbor)
    (hkeep : n.config.dropChance.happens draw = false) (hlength : packet.length = 1653) :
    n.accepted (.packet draw packet sender kind) =
      if n.seen.packets.contains (Sha256.digest (Packet.payload packet)) then none
      else (validate n.minWeight (Packet.payload packet)).toOption.map fun t => ⟨t, neighbor⟩ := by
  simp [accepted, considered, unlucky, arrival, hfind, hkeep, hlength]

/-- The payload of a packet is taken after the sender was counted. -/
theorem aside_take {neighbor : Neighbor} (hfind : n.roster.find? sender kind = some neighbor)
    (hkeep : n.config.dropChance.happens draw = false) (hlength : packet.length = 1653) :
    n.Aside (.packet draw packet sender kind)
      (match (n.bump neighbor .all).takePayload neighbor (Packet.payload packet) with
      | (none, m) => (Outcome.invalid, m)
      | (some (hash, outcome), m) =>
          (outcome, m.queueRequest neighbor hash (Packet.request packet))).2 := by
  have haccepted := accepted_packet hfind hkeep hlength
  have hall : n.roster.Grows (n.roster.bump neighbor .all) := n.roster.bump_grows _ (by decide)
  have hpackets : ∀ x ∈ (n.seen.lookupPacket (Sha256.digest (Packet.payload packet))).2.packets.entries,
      x ∈ n.seen.packets.entries := fun x hx => Seen.mem_of_mem_lookupPacket hx
  have hhashes := n.seen.lookupPacket_hashes (Sha256.digest (Packet.payload packet))
  cases hfound : n.seen.packets.find? (Sha256.digest (Packet.payload packet)) with
  | some hash =>
    -- a duplicate only refreshes what is remembered
    rw [Recent.contains, hfound] at haccepted
    rw [takePayload_known (n := n.bump neighbor .all) hfound]
    simp only
    rw [queueRequest_eq]
    exact aside_of_not_accepted haccepted hall hhashes hpackets
  | none =>
    have hnew := Recent.not_contains_of_find? hfound
    have hminWeight : (n.bump neighbor .all).minWeight = n.minWeight := rfl
    rw [hnew] at haccepted
    rw [takePayload_unseen (n := n.bump neighbor .all) hnew, hminWeight]
    cases hvalidate : validate n.minWeight (Packet.payload packet) with
    | error e =>
      -- an invalid payload is counted and not remembered
      rw [hvalidate] at haccepted
      exact aside_of_not_accepted haccepted
        (hall.trans (Roster.bump_grows _ _ (by decide))) hhashes hpackets
    | ok t =>
      rw [hvalidate] at haccepted
      simp only
      rw [queueRequest_eq]
      refine aside_of_accepted (r := ⟨t, neighbor⟩) haccepted hall hhashes ?_
      -- the one new entry is that of the payload, under its own hash
      intro x hx
      rcases Recent.mem_of_mem_put hx with rfl | hx
      · exact .inr (by rw [payload_of_validate hvalidate])
      · exact .inl (hpackets x hx)

/-- A packet stores nothing, whatever becomes of it. -/
theorem aside_receive (n : Node) (draw : Nat) (packet : Bytes) (sender : SocketAddress)
    (kind : TransportKind) :
    n.Aside (.packet draw packet sender kind) (n.receive draw packet sender kind).2 := by
  unfold receive
  cases hfind : n.roster.find? sender kind with
  | none =>
    -- a stranger is met if strangers are welcome; the packet is dropped all the same
    have haccepted : n.accepted (.packet draw packet sender kind) = none :=
      accepted_of_arrival (by simp [arrival, hfind])
    simp only
    split
    · exact aside_of_not_accepted haccepted (n.roster.meet_grows _ _ _) rfl fun _ hx => hx
    · exact aside_of_not_accepted haccepted (.refl _) rfl fun _ hx => hx
  | some neighbor =>
    have hall : n.roster.Grows (n.roster.bump neighbor .all) := n.roster.bump_grows _ (by decide)
    simp only
    split
    · next hdrop =>
      exact aside_of_not_accepted (accepted_of_unlucky hdrop) hall rfl fun _ hx => hx
    · next hkeep =>
      split
      · next hlength =>
        have haccepted : n.accepted (.packet draw packet sender kind) = none :=
          accepted_of_arrival (by simp [arrival, hlength])
        exact aside_of_not_accepted haccepted
          (hall.trans (Roster.bump_grows _ _ (by decide))) rfl fun _ hx => hx
      · next hlength =>
        exact aside_take hfind (Bool.eq_false_iff.mpr hkeep) (Decidable.not_not.mp hlength)

theorem contains_of_takePayload {neighbor : Neighbor} {payload : Bytes} {hash : Hash}
    (h : (n.takePayload neighbor payload).1 = some (hash, .duplicate)) :
    n.seen.packets.contains (Sha256.digest payload) = true := by
  cases hcontains : n.seen.packets.contains (Sha256.digest payload) with
  | true => rfl
  | false =>
    rw [takePayload_unseen hcontains] at h
    cases hvalidate : validate n.minWeight payload with
    | error e => rw [hvalidate] at h; cases h
    | ok t => rw [hvalidate] at h; cases h

/-- Only a remembered payload makes a duplicate. -/
theorem contains_of_duplicate (h : (n.receive draw packet sender kind).1 = .duplicate) :
    n.seen.packets.contains (Sha256.digest (Packet.payload packet)) = true := by
  unfold receive at h
  split at h
  · split at h <;> cases h
  · next neighbor _ =>
    simp only at h
    split at h
    · cases h
    · split at h
      · cases h
      · split at h
        · cases h
        · next hash outcome m htake =>
          simp only at h
          subst h
          exact contains_of_takePayload (n := n.bump neighbor .all) (congrArg Prod.fst htake)

/-- Once its payload is taken, a packet is read for the hash that it asks for. -/
theorem receive_of_take {neighbor : Neighbor} {hash : Hash} {outcome : Outcome} {m : Node}
    (hfind : n.roster.find? sender kind = some neighbor)
    (hkeep : n.config.dropChance.happens draw = false) (hlength : packet.length = 1653)
    (htake : (n.bump neighbor .all).takePayload neighbor (Packet.payload packet) =
      (some (hash, outcome), m)) :
    n.receive draw packet sender kind =
      (outcome, m.queueRequest neighbor hash (Packet.request packet)) := by
  have hkeep' : (n.bump neighbor .all).config.dropChance.happens draw = false := hkeep
  simp [receive, hfind, hkeep', hlength, htake]

theorem duplicate_of_contains {neighbor : Neighbor}
    (hfind : n.roster.find? sender kind = some neighbor)
    (hkeep : n.config.dropChance.happens draw = false) (hlength : packet.length = 1653)
    (hseen : n.seen.packets.contains (Sha256.digest (Packet.payload packet)) = true) :
    (n.receive draw packet sender kind).1 = .duplicate := by
  obtain ⟨hash, hhash⟩ := Option.isSome_iff_exists.mp hseen
  rw [receive_of_take hfind hkeep hlength (takePayload_known (n := n.bump neighbor .all) hhash)]

/-- A payload that is not remembered and is accepted is queued. -/
theorem receive_new {neighbor : Neighbor} {t : Transaction}
    (hfind : n.roster.find? sender kind = some neighbor)
    (hkeep : n.config.dropChance.happens draw = false) (hlength : packet.length = 1653)
    (hnew : n.seen.packets.contains (Sha256.digest (Packet.payload packet)) = false)
    (hvalid : validate n.minWeight (Packet.payload packet) = .ok t) :
    n.receive draw packet sender kind =
      (.queued,
        { n with
          roster := n.roster.bump neighbor .all
          seen := (n.seen.lookupPacket (Sha256.digest (Packet.payload packet))).2.insertPacket
            (Sha256.digest (Packet.payload packet)) t.hash
          received := (n.received.push (Received.mk t neighbor).priority ⟨t, neighbor⟩).2
        }.queueRequest neighbor t.hash (Packet.request packet)) :=
  receive_of_take hfind hkeep hlength
    (takePayload_new (n := n.bump neighbor .all) hnew hvalid)

/-! ## Tasks -/

theorem accepted_work (n : Node) (w : Surroundings) (task : Task) :
    n.accepted (.work w task) = none :=
  accepted_of_arrival rfl

theorem aside_passOn (n : Node) (w : Surroundings) :
    n.Aside (.work w .passOn) (n.perform w .passOn).2 := by
  have haccepted := n.accepted_work w .passOn
  unfold perform broadcastNext
  cases hpop : n.outgoing.pop? with
  | none => constructor <;> simp [haccepted, hpop, Wanted.Turned.refl, Roster.Grows.refl]
  | some x =>
    obtain ⟨t, outgoing⟩ := x
    -- sending asks for wanted hashes, which turns their line around
    obtain ⟨w', hw', heq⟩ :=
      { n with outgoing }.sendAll_eq w.link t w.draws n.roster.listed
    simp only [Option.map_some, Option.getD_some, heq]
    constructor <;> simp_all [Roster.Grows.refl]

/-- A task other than passing on and storing turns the line of wanted
    hashes around and changes requests and neighbors. -/
theorem aside_of_work {n : Node} {w : Surroundings} {task : Task} (hpass : task ≠ .passOn)
    {wanted : Wanted} {roster : Roster} (requests : WeightQueue Request)
    (hwanted : n.wanted.Turned wanted) (hroster : n.roster.Grows roster) :
    n.Aside (.work w task) { n with wanted, roster, requests } := by
  have haccepted := n.accepted_work w task
  cases task with
  | passOn => exact absurd rfl hpass
  | requestTips => constructor <;> simp [haccepted, hwanted, hroster]
  | refreshNames => constructor <;> simp [haccepted, hwanted, hroster]
  | store => constructor <;> simp [haccepted, hwanted, hroster]
  | answer => constructor <;> simp [haccepted, hwanted, hroster]

theorem aside_answer (n : Node) (w : Surroundings) :
    n.Aside (.work w .answer) (n.perform w .answer).2 := by
  unfold perform answerNext
  cases n.requests.pop? with
  | none => exact aside_of_work (by decide) n.requests (.refl _) (.refl _)
  | some x =>
    obtain ⟨r, requests⟩ := x
    obtain ⟨w', roster, hw', hroster, heq⟩ :=
      { n with requests }.answerRequest_eq w.link r w.draws
    simp only [Option.map_some, Option.getD_some, heq]
    refine aside_of_work (by decide) requests hw' ?_
    rcases hroster with rfl | ⟨_, rfl⟩
    · exact .refl _
    · exact n.roster.bump_grows r.neighbor (by decide)

theorem aside_refreshNames (n : Node) (w : Surroundings) :
    n.Aside (.work w .refreshNames) (n.perform w .refreshNames).2 := by
  obtain ⟨roster, hroster, heq⟩ := n.refreshNames_eq w.names n.roster.listed
  simp only [perform, heq]
  exact aside_of_work (by decide) n.requests (.refl _) hroster.grows

/-- The four ways in which a received transaction is stored. -/
theorem effect_store (n : Node) (w : Surroundings) :
    n.Effect (.work w .store) (n.perform w .store).2 := by
  unfold perform storeNext
  cases hpop : n.received.pop? with
  | none =>
    exact .aside (by simp [storing, hpop]) (aside_of_work (by decide) n.requests (.refl _) (.refl _))
  | some x =>
    obtain ⟨r, received⟩ := x
    simp only [Option.map_some, Option.getD_some, storeReceived]
    cases hseen : n.seen.containsHash r.transaction.hash with
    | true => exact .recent rfl hpop hseen rfl
    | false =>
      cases hstore : r.transaction.store n.store with
      | mk answer store =>
        cases answer with
        | error cause => exact .fails rfl hpop hseen hstore rfl
        | ok stored =>
          cases stored with
          | false => exact .known rfl hpop hseen hstore rfl
          | true => exact .first rfl hpop hseen hstore rfl

/-! ## Every event -/

theorem effect (n : Node) (e : Event) : n.Effect e (n.step e) := by
  cases e with
  | packet draw packet sender kind => exact .aside rfl (n.aside_receive draw packet sender kind)
  | work w task =>
    cases task with
    | passOn => exact .aside rfl (n.aside_passOn w)
    | requestTips =>
      exact .aside rfl (aside_of_work (by decide) n.requests (.refl _) (.refl _))
    | refreshNames => exact .aside rfl (n.aside_refreshNames w)
    | store => exact n.effect_store w
    | answer => exact .aside rfl (n.aside_answer w)
  | meet uri address configured =>
    refine .aside rfl ?_
    constructor <;> simp [step, accepted, considered, arrival, Wanted.Turned.refl, Roster.meet_grows]
  | leave address kind =>
    refine .aside rfl ?_
    constructor <;> simp [step, accepted, considered, arrival, Wanted.Turned.refl, Roster.remove_grows]
  | markSolid h =>
    refine .aside rfl ?_
    constructor <;> simp [step, accepted, considered, arrival, Wanted.Turned.refl, Roster.Grows.refl]
  | askNext =>
    refine .aside rfl ?_
    constructor <;> simp [step, accepted, considered, arrival, Wanted.Turned.next, Roster.Grows.refl]

/-- No event changes what the operator chose. -/
theorem settings_step (n : Node) (e : Event) :
    (n.step e).config = n.config ∧ (n.step e).minWeight = n.minWeight := by
  cases n.effect e with
  | aside _ h => exact ⟨h.config, h.minWeight⟩
  | recent _ _ _ heq => rw [heq]; exact ⟨rfl, rfl⟩
  | fails _ _ _ _ heq => rw [heq]; exact ⟨rfl, rfl⟩
  | known _ _ _ _ heq => rw [heq]; exact ⟨rfl, rfl⟩
  | @first w r received store _ _ _ _ heq =>
    obtain ⟨store', tips, wanted, outgoing, hframe, _⟩ :=
      { n with received, store, seen := (n.seen.insertHash r.transaction.hash).2 }.onFirstStore_frame
        r.transaction r.neighbor w.clock
    rw [heq, hframe]
    exact ⟨rfl, rfl⟩

/-- An event remembers at most the payload that it accepts. -/
theorem packets_step (n : Node) (e : Event) :
    ∀ x ∈ (n.step e).seen.packets.entries, x ∈ n.seen.packets.entries ∨
      ∃ r, n.accepted e = some r ∧
        x = (Sha256.digest r.transaction.payload, r.transaction.hash) := by
  cases n.effect e with
  | aside _ ha => exact ha.packets
  | recent _ _ _ heq =>
    rw [heq]
    exact fun x hx => .inl hx
  | fails _ _ _ _ heq =>
    rw [heq]
    exact fun x hx => .inl hx
  | known _ _ _ _ heq =>
    rw [heq]
    exact fun x hx => .inl hx
  | @first w r received store _ _ _ _ heq =>
    obtain ⟨_, _, _, _, hframe, _⟩ :=
      { n with received, store, seen := (n.seen.insertHash r.transaction.hash).2 }.onFirstStore_frame
        r.transaction r.neighbor w.clock
    rw [heq, hframe]
    exact fun x hx => .inl hx

/-- The settings are the same all along a run. -/
theorem settings_run (n : Node) (es : List Event) :
    ((n.run es).config = n.config ∧ (n.run es).minWeight = n.minWeight) ∧
      ∀ x ∈ n.trace es, x.1.config = n.config ∧ x.1.minWeight = n.minWeight := by
  refine run_induction (P := fun m tr => (m.config = n.config ∧ m.minWeight = n.minWeight) ∧
    ∀ x ∈ tr, x.1.config = n.config ∧ x.1.minWeight = n.minWeight)
    ⟨⟨rfl, rfl⟩, fun _ hx => absurd hx List.not_mem_nil⟩ ?_ es
  intro m tr e hm
  obtain ⟨hconfig, hweight⟩ := m.settings_step e
  refine ⟨⟨hconfig.trans hm.1.1, hweight.trans hm.1.2⟩, ?_⟩
  intro x hx
  rcases List.mem_append.mp hx with hx | hx
  · exact hm.2 x hx
  · rw [List.mem_singleton.mp hx]
    exact hm.1

/-! ## One fault-free provider -/

/-- Everything that an event can do when one fault-free provider keeps the
    tables `T`. -/
inductive EffectOver (T : Tables) (n : Node) (e : Event) (n' : Node) : Prop
  /-- Nothing is taken to be stored. -/
  | aside (hfirst : n.firstStored e = none) (h : n.Aside e n')
  /-- What is taken is stored already. -/
  | known {w : Surroundings} {r : Received} {received : WeightQueue Received} {seen : Seen}
      (he : e = .work w .store) (hfirst : n.firstStored e = none)
      (hpop : n.received.pop? = some (r, received))
      (heq : n' = { n with received, seen })
  /-- What is taken is stored for the first time. -/
  | first {w : Surroundings} {r : Received} {received : WeightQueue Received} {store : Store}
      {T' : Tables} (he : e = .work w .store) (hfirst : n.firstStored e = some r)
      (hpop : n.received.pop? = some (r, received)) (hnew : ¬ T.Stored r.transaction.hash)
      (hstore : store.Keeps T') (hT' : (T.putAll r.transaction.puts).Alike T')
      (heq : n' =
        { n with
          received
          store
          seen := (n.seen.insertHash r.transaction.hash).2
          roster := n.roster.bump r.neighbor .fresh
          tips := n.tips.withStored T' r.transaction
          wanted := ((n.wanted.requestAll (r.transaction.missingParents store)).clear
            r.transaction.hash).2
          outgoing := (n.outgoing.push r.transaction.priority
            (r.transaction.stamped w.clock r.neighbor.address.text)).2 })

theorem effectOver {n : Node} {T : Tables} (hkeeps : n.store.Keeps T) (e : Event) :
    n.EffectOver T e (n.step e) := by
  cases n.effect e with
  | aside hstoring h => exact .aside (firstStored_of_storing hstoring) h
  | recent he hpop hseen heq =>
    subst he
    exact .known rfl (by simp [firstStored, storing, hpop, hseen]) hpop heq
  | @fails w r received cause store he hpop hseen hstore heq =>
    -- the provider answers, whether the transaction is known or new
    obtain ⟨b, hok⟩ := hkeeps.store_ok r.transaction
    rw [hstore] at hok
    cases hok
  | @known w r received store he hpop hseen hstore heq =>
    subst he
    have hfirst : n.firstStored (.work w .store) = none := by
      simp [firstStored, storing, hpop, hseen, hstore]
    rcases hkeeps.store_cases r.transaction with ⟨_, hans⟩ | ⟨_, s', hans, _⟩
    · rw [hans] at hstore
      cases hstore
      exact .known rfl hfirst hpop heq
    · rw [hans] at hstore
      cases hstore
  | @first w r received store he hpop hseen hstore heq =>
    subst he
    have hfirst := firstStored_of_store hpop hseen hstore w
    rcases hkeeps.store_cases r.transaction with ⟨_, hans⟩ | ⟨hs, s', hans, hs'⟩
    · rw [hans] at hstore
      cases hstore
    · rw [hans] at hstore
      cases hstore
      -- stamping the arrival changes the store once more
      obtain ⟨s'', T', hkeeps', hT', hafter⟩ :=
        onFirstStore_eq (n := { n with
          received, store, seen := (n.seen.insertHash r.transaction.hash).2 })
          hs' r.transaction r.neighbor w.clock
      rw [hafter] at heq
      exact .first rfl hfirst hpop hs hkeeps' hT' heq

/-- A fault-free provider never fails to store. -/
theorem failed_eq_none {n : Node} {T : Tables} (hkeeps : n.store.Keeps T) (e : Event) :
    n.failed e = none := by
  unfold failed
  split
  · next r cause hstoring =>
    obtain ⟨_, hanswer⟩ := storing_spec hstoring
    obtain ⟨b, hok⟩ := hkeeps.store_ok r.transaction
    rw [← hanswer] at hok
    cases hok
  · rfl

end TernaryGossip.Node
