import TernaryGossip.Proofs.Gossip.Honest

/-! # What a node sends

    Three tasks hand packets to the link: passing on, asking for tips, and
    answering.  `perform_sends` says everything that such a packet can be: it
    carries the transaction that the task selects, and asks for a hash that
    the node may ask for.

    An honest node selects only transactions that vouch for their hash and
    asks only for hashes whose bytes are packed groups. -/

namespace TernaryGossip.Node

/-! ## What may be sent -/

/-- A packet with this transaction may ask for the latest milestone, for a
    wanted transaction, or for any tip by the hash of the transaction. -/
def MayAsk (n : Node) (t : Transaction) (h : Hash) : Prop :=
  (h = n.milestones.latestHash ∧ h.isNull = false) ∨ h ∈ n.wanted.line ∨ h = t.hash

/-- The hash whose transaction answers a request. -/
def target (n : Node) (draws : Draws) (r : Request) : Hash :=
  if r.hash.isNull then n.anyTip draws else r.hash

/-- The transaction that a task sends. -/
inductive Selects (n : Node) (w : Surroundings) : Task → Transaction → Prop
  /-- The next one to pass on. -/
  | passOn {t : Transaction} {rest : WeightQueue Transaction}
      (hpop : n.outgoing.pop? = some (t, rest)) : Selects n w .passOn t
  /-- The latest milestone. -/
  | requestTips {t : Transaction}
      (hload : Transaction.load n.store n.milestones.latestHash = .ok t)
      (hfilled : t.isFilled = true) : Selects n w .requestTips t
  /-- The one that answers the next request. -/
  | answer {r : Request} {rest : WeightQueue Request} {t : Transaction}
      (hpop : n.requests.pop? = some (r, rest))
      (hload : Transaction.load n.store (n.target w.draws r) = .ok t)
      (hfilled : t.isFilled = true) : Selects n w .answer t

/-- The packet carries the transaction, and asks for a hash that the node may
    ask for. -/
def Sends (n : Node) (t : Transaction) (d : Delivery) : Prop :=
  ∃ request, n.MayAsk t request ∧ d.packet = Packet.encode t.payload request

variable {n : Node}

/-- Turning the line of wanted hashes around makes no others wanted. -/
theorem Sends.of_turned {w : Wanted} (hturned : n.wanted.Turned w) {t : Transaction} {d : Delivery}
    (h : Sends { n with wanted := w } t d) : n.Sends t d := by
  obtain ⟨request, hask, hpacket⟩ := h
  refine ⟨request, ?_, hpacket⟩
  rcases hask with hlatest | hmem | hself
  · exact .inl hlatest
  · exact .inr (.inl (hturned.line.mem_iff.mp hmem))
  · exact .inr (.inr hself)

/-! ## Sending -/

theorem mayAsk_chooseRequest (t : Transaction) (draw : Nat) :
    n.MayAsk t (n.chooseRequest t draw).1 := by
  unfold chooseRequest
  simp only
  split
  · next hchosen =>
    simp only [Bool.and_eq_true, Bool.not_eq_eq_eq_not, Bool.not_true] at hchosen
    exact .inl ⟨rfl, hchosen.1⟩
  · show n.MayAsk t (n.wanted.next.1.getD t.hash)
    cases hnext : n.wanted.next.1 with
    | none => exact .inr (.inr rfl)
    | some h => exact .inr (.inl (Wanted.mem_of_next hnext))

theorem sends_of_sendTo {link : Link} {t : Transaction} {neighbor : Neighbor} {draw : Nat}
    {d : Delivery} (h : (n.sendTo link t neighbor draw).1 = .ok d) : n.Sends t d := by
  have hsent : (link.send neighbor).map (fun _ => (⟨neighbor,
      Packet.encode t.payload (n.chooseRequest t draw).1⟩ : Delivery)) = .ok d := h
  cases hlink : link.send neighbor with
  | error e =>
    rw [hlink] at hsent
    cases hsent
  | ok _ =>
    rw [hlink] at hsent
    cases hsent
    exact ⟨_, mayAsk_chooseRequest t draw, rfl⟩

/-- Every neighbor gets the same transaction, but is asked for the next
    wanted hash. -/
theorem sends_of_sendAll {link : Link} {t : Transaction} {draws : Draws} {neighbors : List Neighbor}
    {d : Delivery} (hd : d ∈ (n.sendAll link t draws neighbors).1) : n.Sends t d := by
  induction neighbors generalizing n draws with
  | nil => cases hd
  | cons neighbor rest ih =>
    -- the other neighbors get what the node sends once its line was turned
    obtain ⟨w, hturned, hnext⟩ := n.sendTo_eq link t neighbor (draws 0)
    have hrest : d ∈ ((n.sendTo link t neighbor (draws 0)).2.sendAll link t
        (fun i => draws (i + 1)) rest).1 → n.Sends t d := by
      intro hlater
      rw [hnext] at hlater
      exact (ih hlater).of_turned hturned
    unfold sendAll at hd
    simp only at hd
    split at hd
    · next d' hsent =>
      rcases List.mem_cons.mp hd with rfl | hd
      · exact sends_of_sendTo hsent
      · exact hrest hd
    · exact hrest hd

theorem sends_of_requestTips {link : Link} {ds : List Delivery}
    (h : n.requestTips link = .ok ds) {d : Delivery} (hd : d ∈ ds) :
    ∃ t, Transaction.load n.store n.milestones.latestHash = .ok t ∧ t.isFilled = true ∧
      n.Sends t d := by
  unfold requestTips at h
  cases hload : Transaction.load n.store n.milestones.latestHash with
  | error e =>
    rw [hload] at h
    cases h
  | ok t =>
    rw [hload] at h
    by_cases hfilled : t.isFilled = true
    · simp only [bind, Except.bind, hfilled, if_true, pure, Except.pure, Except.ok.injEq] at h
      rw [← h] at hd
      obtain ⟨neighbor, _, hsent⟩ := List.mem_filterMap.mp hd
      split at hsent
      · cases hsent
        exact ⟨t, rfl, hfilled, _, .inr (.inr rfl), rfl⟩
      · cases hsent
    · simp only [bind, Except.bind, hfilled, Bool.false_eq_true, if_false, pure, Except.pure,
        Except.ok.injEq] at h
      rw [← h] at hd
      cases hd

theorem sends_of_answer {link : Link} {hash : Hash} {neighbor : Neighbor} {draws : Draws}
    {d : Delivery} (hd : d ∈ (n.answer link hash neighbor draws).1) :
    ∃ t, Transaction.load n.store hash = .ok t ∧ t.isFilled = true ∧ n.Sends t d := by
  unfold answer at hd
  split at hd
  · cases hd
  · next t hload =>
    split at hd
    · next hfilled =>
      split at hd
      · next d' m hsent =>
        rw [List.mem_singleton.mp hd]
        exact ⟨t, hload, hfilled, sends_of_sendTo (congrArg Prod.fst hsent)⟩
      · cases hd
    · cases hd

theorem sends_of_answerRequest {link : Link} {r : Request} {draws : Draws} {d : Delivery}
    (hd : d ∈ (n.answerRequest link r draws).1) :
    ∃ t, Transaction.load n.store (n.target draws r) = .ok t ∧ t.isFilled = true ∧ n.Sends t d := by
  unfold answerRequest at hd
  unfold target
  by_cases hnull : r.hash.isNull = true
  · rw [if_pos hnull] at hd ⊢
    -- counting the request changes the roster alone
    split at hd
    · cases hd
    · exact sends_of_answer (n := n.bump r.neighbor .random) hd
  · rw [if_neg hnull] at hd ⊢
    exact sends_of_answer hd

/-- Everything that a task can send. -/
theorem perform_sends {w : Surroundings} {task : Task} {d : Delivery}
    (hd : d ∈ (n.perform w task).1) : ∃ t, n.Selects w task t ∧ n.Sends t d := by
  cases task with
  | passOn =>
    unfold perform broadcastNext at hd
    cases hpop : n.outgoing.pop? with
    | none =>
      rw [hpop] at hd
      cases hd
    | some x =>
      obtain ⟨t, outgoing⟩ := x
      rw [hpop] at hd
      exact ⟨t, .passOn hpop, sends_of_sendAll (n := { n with outgoing }) hd⟩
  | requestTips =>
    unfold perform at hd
    cases hround : n.requestTips w.link with
    | error e =>
      rw [hround] at hd
      cases hd
    | ok ds =>
      rw [hround] at hd
      obtain ⟨t, hload, hfilled, hsends⟩ := sends_of_requestTips hround hd
      exact ⟨t, .requestTips hload hfilled, hsends⟩
  | refreshNames => cases hd
  | store => cases hd
  | answer =>
    unfold perform answerNext at hd
    cases hpop : n.requests.pop? with
    | none =>
      rw [hpop] at hd
      cases hd
    | some x =>
      obtain ⟨r, requests⟩ := x
      rw [hpop] at hd
      obtain ⟨t, hload, hfilled, hsends⟩ := sends_of_answerRequest (n := { n with requests }) hd
      exact ⟨t, .answer hpop hload hfilled, hsends⟩

/-! ## What an honest node sends -/

namespace Honest

variable {T : Tables} (h : n.Honest T)
include h

theorem loaded {g : Hash} {t : Transaction} (hload : Transaction.load n.store g = .ok t)
    (hfilled : t.isFilled = true) : t.hash = g ∧ Vouched n.minWeight t.hash t.payload := by
  rcases h.keeps.load_ok_iff.mp hload with ⟨rfl, _⟩ | ⟨_, hloads⟩
  · -- a placeholder is never sent
    rw [Transaction.isFilled_placeholder] at hfilled
    cases hfilled
  · exact h.stored.loads hloads

theorem vouched_of_selects {w : Surroundings} {task : Task} {t : Transaction}
    (hselects : n.Selects w task t) : Vouched n.minWeight t.hash t.payload := by
  cases hselects with
  | passOn hpop =>
    apply h.outgoing
    rw [WeightQueue.toList_of_pop? hpop]
    exact List.mem_cons_self
  | requestTips hload hfilled => exact (h.loaded hload hfilled).2
  | answer hpop hload hfilled => exact (h.loaded hload hfilled).2

/-- The transaction that answers a request has the hash that was asked for. -/
theorem hash_of_selects {w : Surroundings} {t : Transaction} (hselects : n.Selects w .answer t)
    {r : Request} {rest : WeightQueue Request} (hpop : n.requests.pop? = some (r, rest)) :
    t.hash = n.target w.draws r := by
  cases hselects with
  | answer hpop' hload hfilled =>
    rw [hpop] at hpop'
    cases hpop'
    exact (h.loaded hload hfilled).1

/-- Whatever is asked for is a hash to others too. -/
theorem valid_of_mayAsk
    (hlatest : n.milestones.latestHash.isNull = true ∨
      ∃ ts : Trits, ts.Balanced ∧ n.milestones.latestHash = Hash.ofTrits ts)
    {t : Transaction} (ht : Vouched n.minWeight t.hash t.payload) {g : Hash}
    (hask : n.MayAsk t g) : g.Valid := by
  rcases hask with ⟨rfl, hnull⟩ | hmem | rfl
  · rcases hlatest with hnull' | ⟨ts, hbalanced, heq⟩
    · rw [hnull'] at hnull
      cases hnull
    · rw [heq]
      exact Hash.valid_ofTrits hbalanced
  · exact h.wanted g hmem
  · exact ht.valid

end Honest

end TernaryGossip.Node
