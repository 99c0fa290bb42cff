import TernaryGossip.Proofs.Gossip.Traffic

/-! # Peers and entries of the roster

    The roster of a node changes by edits only (`listed_step`), and the
    edits that a look-up of names makes keep the name of the neighbor that
    they replace.  What is passed on goes to every entry, so a peer gets as
    many copies as its endpoint has entries (`count_passOn`).

    A peer is listed once unless a replacement clashes with another entry;
    while a clash lasts, the peer gets every transaction twice. -/

namespace TernaryGossip

/-! ## Passing on -/

/-- Packets to this endpoint are handed over. -/
def Link.reaches (l : Link) (address : SocketAddress) (kind : TransportKind) : Bool :=
  !(l.datagramsOnly && kind != .datagram) && !(l.unreachable.contains address)

theorem Link.isOk_send (l : Link) (n : Neighbor) : (l.send n).isOk = l.reaches n.address n.kind := by
  unfold send reaches
  split
  · next hkind =>
    rw [hkind.1, bne_iff_ne.mpr hkind.2]
    rfl
  · next hkind =>
    have hsupported : (l.datagramsOnly && n.kind != .datagram) = false := by
      refine Bool.eq_false_iff.mpr fun h => hkind ?_
      rw [Bool.and_eq_true] at h
      exact ⟨h.1, bne_iff_ne.mp h.2⟩
    rw [hsupported]
    split
    · next haddress =>
      rw [List.contains_iff_mem.mpr haddress]
      rfl
    · next haddress =>
      rw [Bool.eq_false_iff.mpr fun h => haddress (List.contains_iff_mem.mp h)]
      rfl

namespace Node

/-- Every neighbor that the link reaches gets one packet. -/
theorem neighbors_sendAll (n : Node) (link : Link) (t : Transaction) (draws : Draws)
    (neighbors : List Neighbor) :
    (n.sendAll link t draws neighbors).1.map (·.neighbor) =
      neighbors.filter fun q => link.reaches q.address q.kind := by
  induction neighbors generalizing n draws with
  | nil => rfl
  | cons q rest ih =>
    -- the packet for the first one leaves, or it does not, before those for the others
    have hrest := ih (n.sendTo link t q (draws 0)).2 fun i => draws (i + 1)
    have hsent := link.isOk_send q
    rw [List.filter_cons, ← hsent, ← hrest, sendAll]
    simp only [sendTo]
    cases link.send q <;> rfl

/-- An endpoint that the link reaches gets as many packets as it has entries. -/
theorem count_passOn {n : Node} {w : Surroundings} {t : Transaction}
    {rest : WeightQueue Transaction} (hpop : n.outgoing.pop? = some (t, rest))
    (address : SocketAddress) (kind : TransportKind) :
    (n.perform w .passOn).1.countP (·.neighbor.sameEndpoint address kind) =
      if w.link.reaches address kind = true then n.roster.entries address kind else 0 := by
  have hneighbors :=
    { n with outgoing := rest }.neighbors_sendAll w.link t w.draws n.roster.listed
  have hcount : (n.perform w .passOn).1.countP (·.neighbor.sameEndpoint address kind) =
      (n.roster.listed.filter fun q => w.link.reaches q.address q.kind).countP
        (·.sameEndpoint address kind) := by
    rw [← hneighbors, List.countP_map]
    simp only [perform, broadcastNext, hpop, Option.map_some, Option.getD_some]
    rfl
  -- of one endpoint the link reaches all entries or none
  rw [hcount, List.countP_filter]
  split
  · next hreaches =>
    refine List.countP_congr fun q _ => ?_
    rw [Bool.and_eq_true, Neighbor.sameEndpoint_iff]
    constructor
    · exact fun h => h.1
    · rintro ⟨rfl, rfl⟩
      exact ⟨⟨rfl, rfl⟩, hreaches⟩
  · next hnever =>
    rw [List.countP_eq_zero]
    intro q _ hq
    rw [Bool.and_eq_true, Neighbor.sameEndpoint_iff] at hq
    obtain ⟨⟨rfl, rfl⟩, hreaches⟩ := hq
    exact hnever hreaches

/-! ## A node's roster -/

/-- Every event changes the list of neighbors by edits, and those that
    replace a neighbor keep its name. -/
theorem listed_step (n : Node) (e : Event) :
    ∃ es : List Roster.Edit, (∀ x ∈ es, x.KeepsName) ∧
      (n.step e).roster.listed = (n.roster.editAll es).listed := by
  -- counting does not touch the list
  have hsame : ∀ roster : Roster, roster.listed = n.roster.listed →
      ∃ es : List Roster.Edit, (∀ x ∈ es, x.KeepsName) ∧
        roster.listed = (n.roster.editAll es).listed :=
    fun _ heq => ⟨[], fun _ hx => absurd hx List.not_mem_nil, heq⟩
  cases n.traffic_step e with
  | edits hroster => exact hroster.edits
  | arrives _ hroster => exact hsame _ (by rw [hroster, Roster.bump])
  | refused _ hroster => exact hsame _ (by rw [hroster, Roster.bump, Roster.bump])
  | stores _ hroster =>
    rcases hroster with heq | ⟨_, _, heq⟩
    · exact hsame _ (by rw [heq])
    · exact hsame _ (by rw [heq, Roster.bump])
  | answers _ hroster =>
    rcases hroster with heq | ⟨_, heq⟩
    · exact hsame _ (by rw [heq])
    · exact hsame _ (by rw [heq, Roster.bump])

end Node

/-! ## Peers -/

namespace Roster

/-- A run of edits lists every peer once, all along, if and only if no
    replacement in it puts a neighbor at the endpoint of another entry.  A
    peer that is listed twice was put so by such a replacement and was not
    removed since; removing it leaves no entry of it.

    A node whose roster comes from such a run edits it further, and it passes
    a transaction on to a peer once for each entry of the peer. -/
theorem listed_once_iff_no_clash (es : List Edit) :
    ((∀ before after, es = before ++ after → (run before).Distinct) ↔
      ∀ before e after, es = before ++ e :: after →
        ∀ address kind, ¬ (run before).Clashes address kind e) ∧
    (∀ address kind, 2 ≤ (run es).entries address kind → ClashedAt es address kind) ∧
    (∀ address kind, ((run es).remove address kind).2.entries address kind = 0) ∧
    ∀ n : Node, n.roster.listed = (run es).listed →
      (∀ e : Event, ∃ es' : List Edit, (∀ x ∈ es', x.KeepsName) ∧
        (n.step e).roster.listed = (run (es ++ es')).listed) ∧
      ∀ (w : Surroundings) (t : Transaction) (rest : WeightQueue Transaction)
        (address : SocketAddress) (kind : TransportKind), n.outgoing.pop? = some (t, rest) →
        (n.perform w .passOn).1.countP (·.neighbor.sameEndpoint address kind) =
          if w.link.reaches address kind = true then (run es).entries address kind else 0 := by
  -- both conditions are about one endpoint at a time
  refine ⟨⟨?_, ?_⟩, fun _ _ => clashedAt_of_two_le, fun address kind => ?_, fun n hn => ⟨?_, ?_⟩⟩
  · intro hdistinct before e after heq address kind
    have hle := fun b a (h : es = b ++ a) => distinct_iff.mp (hdistinct b a h) address kind
    exact (entries_le_one_iff es address kind).mp hle before e after heq
  · intro hnone before after heq
    rw [distinct_iff]
    intro address kind
    have hfree := fun b e a (h : es = b ++ e :: a) => hnone b e a h address kind
    exact (entries_le_one_iff es address kind).mpr hfree before after heq
  · rw [entries_remove, if_pos ⟨rfl, rfl⟩]
  · -- edits look at the list alone, so the node's list may stand for the run
    intro e
    obtain ⟨es', hkeeps, hlisted⟩ := n.listed_step e
    refine ⟨es', hkeeps, ?_⟩
    rw [hlisted, listed_editAll_congr hn, run, run, editAll_append]
  · intro w t rest address kind hpop
    rw [Node.count_passOn hpop, entries, entries, hn]

/-! ### Two names of one peer -/

/-- The operator named this neighbor by a host name; it stood for 10.0.0.5. -/
def named : Neighbor :=
  ⟨0, ⟨.datagram, "localhost", 14600⟩, ⟨.v4 (IpAddress.ofOctets [10, 0, 0, 5]), 14600⟩, true⟩

/-- This neighbor was discovered at the loopback address. -/
def discovered : Neighbor :=
  ⟨1, .ofAddress .datagram ⟨.loopback, 14600⟩, ⟨.loopback, 14600⟩, false⟩

/-- What becomes of the first one when its name stands for the loopback address. -/
def renamed : Neighbor := ⟨2, named.uri, ⟨.loopback, 14600⟩, true⟩

/-- The events that meet the two neighbors. -/
def meetsBoth : List Event :=
  [.meet named.uri named.address true, .meet discovered.uri discovered.address false]

/-- After the replacement the loopback address is listed twice, and a
    transaction is passed on to it twice. -/
theorem clash_sends_twice :
    let es : List Edit := [.add named, .add discovered, .replace named renamed]
    let t := Transaction.placeholder Hash.null
    let n : Node := { Node.started .standard 0 ⟨[Provider.memory]⟩ .empty .empty 2 with
      roster := run es, outgoing := ((WeightQueue.empty 1).push t.priority t).2 }
    let w : Surroundings := ⟨⟨false, []⟩, fun _ => none, 0, fun _ => 0⟩
    ClashedAt es renamed.address .datagram ∧
      (n.perform w .passOn).1.countP (·.neighbor.sameEndpoint renamed.address .datagram) = 2 := by
  intro es t n w
  obtain ⟨-, htwice, -, hnode⟩ := listed_once_iff_no_clash es
  have hpop : n.outgoing.pop? = some (t, .empty 1) := WeightQueue.pop?_push_empty 1 t.priority t
  have hcount := (hnode n rfl).2 w t _ renamed.address .datagram hpop
  have hreaches : w.link.reaches renamed.address .datagram = true := by decide
  have hentries : (run es).entries renamed.address .datagram = 2 := by decide
  rw [if_pos hreaches, hentries] at hcount
  exact ⟨htwice _ _ (Nat.le_of_eq hentries.symm), hcount⟩

/-- When the name of the first neighbor stands for the address of the second
    one, the replacement lists the address twice, and a node makes this
    replacement. -/
theorem clash_lists_twice :
    (Edit.replace named renamed).KeepsName ∧
      (run [.add named, .add discovered]).Distinct ∧
      ¬ (run [.add named, .add discovered, .replace named renamed]).Distinct ∧
      let n := (Node.started .standard 0 ⟨[Provider.memory]⟩ .empty .empty 2).run meetsBoth
      n.roster.listed = [named, discovered] ∧
        (n.step (.work ⟨⟨false, []⟩, fun _ => some .loopback, 0, fun _ => 0⟩
          .refreshNames)).roster.listed = [renamed, discovered] := by
  refine ⟨⟨rfl, by decide, rfl, by decide⟩, ?_, ?_, ?_, ?_⟩
  · rw [Distinct]; decide
  · rw [Distinct]; decide
  · decide
  · decide

end Roster

end TernaryGossip
