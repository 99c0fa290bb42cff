import TernaryGossip.Gossip.Agenda
import TernaryGossip.Proofs.Gossip.Edits
import TernaryGossip.Proofs.Gossip.Memory
import TernaryGossip.Proofs.Gossip.Queue
import TernaryGossip.Proofs.Gossip.Wanted
import TernaryGossip.Proofs.Transaction.Accepting

/-! # Runs of a node

    A run is a list of events: packets arrive, tasks are done, neighbors
    come and go, tips are marked and wanted hashes are asked for from
    outside.  Events may come in any order.

    What happened during a run is told by logs.  A log collects, event by
    event, what one can see of each: which packet was accepted, which
    transaction was stored, which one was lost.

    `effect` says everything that an event can do.  Statements about runs
    follow from it by induction along the trace. -/

namespace TernaryGossip

/-- What has the probability zero never happens. -/
theorem Binary64.happens_of_isZero {p : Binary64} (h : p.isZero = true) (draw : Nat) :
    p.happens draw = false := by
  cases p with
  | finite negative significand exponent =>
    obtain rfl : significand = 0 := by simpa [isZero] using h
    simp only [happens, ratio]
    split <;> simp
  | _ => cases h

/-- Something that happens to a node. -/
inductive Event
  /-- A packet arrives. -/
  | packet (draw : Nat) (packet : Bytes) (sender : SocketAddress) (kind : TransportKind)
  /-- The node does one of its tasks once. -/
  | work (w : Surroundings) (task : Task)
  /-- A neighbor is made and listed. -/
  | meet (uri : NeighborUri) (address : SocketAddress) (configured : Bool)
  /-- The neighbor of an address is struck off. -/
  | leave (address : SocketAddress) (kind : TransportKind)
  /-- A tip is marked as solid. -/
  | markSolid (h : Hash)
  /-- Someone asks for the next wanted hash. -/
  | askNext

/-- The events of a run, each with the node that it happened to. -/
abbrev Trace := List (Node × Event)

/-- What the events of a trace let see, in their order. -/
def Trace.log {α : Type} (tr : Trace) (see : Node → Event → Option α) : List α :=
  tr.filterMap fun x => see x.1 x.2

theorem Trace.log_cons {α : Type} (x : Node × Event) (tr : Trace)
    (see : Node → Event → Option α) :
    Trace.log (x :: tr) see = (see x.1 x.2).toList ++ tr.log see := by
  rw [log, List.filterMap_cons, log]
  cases see x.1 x.2 <;> rfl

theorem Trace.log_concat {α : Type} (tr : Trace) (n : Node) (e : Event)
    (see : Node → Event → Option α) :
    Trace.log (tr ++ [(n, e)]) see = tr.log see ++ (see n e).toList := by
  rw [log, List.filterMap_append, log]
  cases h : see n e <;> simp [h]

theorem Trace.log_concat_none {α : Type} (tr : Trace) {n : Node} {e : Event}
    {see : Node → Event → Option α} (h : see n e = none) :
    Trace.log (tr ++ [(n, e)]) see = tr.log see := by
  rw [log_concat, h, Option.toList_none, List.append_nil]

theorem Trace.log_concat_some {α : Type} (tr : Trace) {n : Node} {e : Event}
    {see : Node → Event → Option α} {a : α} (h : see n e = some a) :
    Trace.log (tr ++ [(n, e)]) see = tr.log see ++ [a] := by
  rw [log_concat, h, Option.toList_some]

theorem Trace.log_congr {α : Type} {tr : Trace} {see see' : Node → Event → Option α}
    (h : ∀ x ∈ tr, see x.1 x.2 = see' x.1 x.2) : tr.log see = tr.log see' := by
  induction tr with
  | nil => rfl
  | cons x tr ih =>
    rw [log_cons, log_cons, h x List.mem_cons_self, ih fun y hy => h y (List.mem_cons_of_mem x hy)]

theorem Trace.mem_log {α : Type} {tr : Trace} {see : Node → Event → Option α} {a : α} :
    a ∈ tr.log see ↔ ∃ x ∈ tr, see x.1 x.2 = some a :=
  List.mem_filterMap

theorem Trace.mem_log_concat {α : Type} {tr : Trace} {n : Node} {e : Event}
    {see : Node → Event → Option α} {a : α} :
    a ∈ Trace.log (tr ++ [(n, e)]) see ↔ a ∈ tr.log see ∨ see n e = some a := by
  rw [log_concat, List.mem_append, Option.mem_toList]

namespace Node

/-- A node before its first event: it knows the tips and milestones that it
    was started with, and has neither neighbors nor work. -/
def started (config : GossipConfig) (minWeight : Nat) (store : Store) (tips : Tips)
    (milestones : Milestones) (wantedCapacity : Nat) : Node :=
  { fresh config minWeight store wantedCapacity with tips, milestones }

/-- The node after an event. -/
def step (n : Node) : Event → Node
  | .packet draw packet sender kind => (n.receive draw packet sender kind).2
  | .work w task => (n.perform w task).2
  | .meet uri address configured =>
      let (neighbor, roster) := n.roster.make uri address configured
      { n with roster := (roster.add neighbor).2 }
  | .leave address kind => { n with roster := (n.roster.remove address kind).2 }
  | .markSolid h => { n with tips := (n.tips.markSolid h).2 }
  | .askNext => { n with wanted := n.wanted.next.2 }

/-- The node after several events. -/
def run (n : Node) (es : List Event) : Node := es.foldl step n

/-- The trace of several events. -/
def trace (n : Node) : List Event → Trace
  | [] => []
  | e :: es => (n, e) :: trace (n.step e) es

theorem run_nil (n : Node) : n.run [] = n := rfl

theorem run_cons (n : Node) (e : Event) (es : List Event) :
    n.run (e :: es) = (n.step e).run es := rfl

/-- What holds at the start and is kept by every event holds after a run. -/
theorem run_induction {P : Node → Trace → Prop} {n : Node} (hstart : P n [])
    (hstep : ∀ n tr e, P n tr → P (n.step e) (tr ++ [(n, e)])) (es : List Event) :
    P (n.run es) (n.trace es) := by
  -- the trace so far grows at its end while the events are used up at the front
  have hfrom : ∀ (es : List Event) (m : Node) (tr : Trace), P m tr →
      P (m.run es) (tr ++ m.trace es) := by
    intro es
    induction es with
    | nil =>
      intro m tr h
      rw [trace, List.append_nil]
      exact h
    | cons e es ih =>
      intro m tr h
      have := ih (m.step e) (tr ++ [(m, e)]) (hstep m tr e h)
      rwa [List.append_assoc] at this
  exact hfrom es n [] hstart

/-! ## What one can see of an event -/

/-- The neighbor and the payload of a packet of the right size. -/
def arrival (n : Node) : Event → Option (Neighbor × Bytes)
  | .packet _ packet sender kind =>
      if packet.length = 1653 then
        (n.roster.find? sender kind).map fun neighbor => (neighbor, Packet.payload packet)
      else none
  | _ => none

/-- Chance drops the packet. -/
def unlucky (n : Node) : Event → Bool
  | .packet draw _ _ _ => n.config.dropChance.happens draw
  | _ => false

/-- The neighbor and the payload of a packet that chance spares. -/
def considered (n : Node) (e : Event) : Option (Neighbor × Bytes) :=
  if n.unlucky e then none else n.arrival e

/-- The transaction of a packet that was not seen before and is accepted. -/
def accepted (n : Node) (e : Event) : Option Received :=
  (n.considered e).bind fun (neighbor, payload) =>
    if n.seen.packets.contains (Sha256.digest payload) then none
    else (validate n.minWeight payload).toOption.map fun t => ⟨t, neighbor⟩

/-- The transaction that leaves a full queue when one is accepted. -/
def evicted (n : Node) (e : Event) : Option Received :=
  (n.accepted e).bind fun r => (n.received.push r.priority r).1

/-- The transaction that the store is asked to store, and its answer. -/
def storing (n : Node) : Event → Option (Received × Except StorageError Bool)
  | .work _ .store =>
      n.received.pop?.bind fun (r, _) =>
        if n.seen.containsHash r.transaction.hash then none
        else some (r, (r.transaction.store n.store).1)
  | _ => none

/-- The transaction that is stored for the first time. -/
def firstStored (n : Node) (e : Event) : Option Received :=
  match n.storing e with
  | some (r, .ok true) => some r
  | _ => none

/-- The transaction that the store fails to store. -/
def failed (n : Node) (e : Event) : Option Received :=
  match n.storing e with
  | some (r, .error _) => some r
  | _ => none

/-- The transaction that leaves the queue without being stored. -/
def lost (n : Node) (e : Event) : Option Received := (n.evicted e).or (n.failed e)

theorem considered_of_isZero {n : Node} (h : n.config.dropChance.isZero = true) (e : Event) :
    n.considered e = n.arrival e := by
  have hlucky : n.unlucky e = false := by
    cases e with
    | packet draw => exact Binary64.happens_of_isZero h draw
    | _ => rfl
  simp [considered, hlucky]

theorem arrival_of_considered {n : Node} {e : Event} {x : Neighbor × Bytes}
    (h : n.considered e = some x) : n.arrival e = some x := by
  unfold considered at h
  split at h
  · cases h
  · exact h

theorem accepted_of_arrival {n : Node} {e : Event} (h : n.arrival e = none) :
    n.accepted e = none := by
  simp [accepted, considered, h]

theorem accepted_of_unlucky {n : Node} {e : Event} (h : n.unlucky e = true) :
    n.accepted e = none := by
  simp [accepted, considered, h]

/-- What is accepted is valid, new, and carried by the packet. -/
theorem accepted_spec {n : Node} {e : Event} {r : Received} (h : n.accepted e = some r) :
    n.arrival e = some (r.neighbor, r.transaction.payload) ∧
      n.seen.packets.contains (Sha256.digest r.transaction.payload) = false ∧
      validate n.minWeight r.transaction.payload = .ok r.transaction := by
  obtain ⟨⟨neighbor, payload⟩, hconsidered, h⟩ := Option.bind_eq_some_iff.mp h
  simp only at h
  split at h
  · cases h
  · next hnew =>
    cases hvalid : validate n.minWeight payload with
    | error e => rw [hvalid] at h; cases h
    | ok t =>
      rw [hvalid] at h
      cases h
      rw [payload_of_validate hvalid]
      exact ⟨arrival_of_considered hconsidered, Bool.eq_false_iff.mpr hnew, hvalid⟩

theorem considered_of_accepted {n : Node} {e : Event} {r : Received} (h : n.accepted e = some r) :
    n.considered e = some (r.neighbor, r.transaction.payload) := by
  unfold considered
  split
  · next hunlucky =>
    rw [accepted_of_unlucky hunlucky] at h
    cases h
  · exact (accepted_spec h).1

/-- The neighbor of an accepted transaction is listed. -/
theorem listed_of_accepted {n : Node} {e : Event} {r : Received} (h : n.accepted e = some r) :
    r.neighbor ∈ n.roster.listed := by
  have harrival := (accepted_spec h).1
  cases e with
  | packet draw packet sender kind =>
    simp only [arrival, Option.ite_none_right_eq_some, Option.map_eq_some_iff] at harrival
    obtain ⟨_, neighbor, hfind, heq⟩ := harrival
    rw [← (Prod.mk.inj heq).1]
    exact Roster.mem_of_find? hfind
  | _ => cases harrival

/-- What the store is asked to store has waited for it. -/
theorem storing_spec {n : Node} {e : Event} {r : Received} {answer : Except StorageError Bool}
    (h : n.storing e = some (r, answer)) :
    r ∈ n.received.toList ∧ answer = (r.transaction.store n.store).1 := by
  unfold storing at h
  split at h
  · obtain ⟨⟨q, received⟩, hpop, h⟩ := Option.bind_eq_some_iff.mp h
    simp only at h
    split at h
    · cases h
    · cases h
      rw [WeightQueue.toList_of_pop? hpop]
      exact ⟨List.mem_cons_self, rfl⟩
  · cases h

theorem waiting_of_firstStored {n : Node} {e : Event} {r : Received}
    (h : n.firstStored e = some r) : r ∈ n.received.toList := by
  unfold firstStored at h
  split at h
  · next q hq =>
    cases h
    exact (storing_spec hq).1
  · cases h

theorem firstStored_of_store {n : Node} {r : Received} {received : WeightQueue Received}
    {store : Store} (hpop : n.received.pop? = some (r, received))
    (hseen : n.seen.containsHash r.transaction.hash = false)
    (hstore : r.transaction.store n.store = (.ok true, store)) (w : Surroundings) :
    n.firstStored (.work w .store) = some r := by
  simp [firstStored, storing, hpop, hseen, hstore]

theorem firstStored_of_storing {n : Node} {e : Event} (h : n.storing e = none) :
    n.firstStored e = none := by
  simp [firstStored, h]

/-! ## Sending -/

theorem chooseRequest_eq (n : Node) (t : Transaction) (draw : Nat) :
    ∃ w, n.wanted.Turned w ∧ (n.chooseRequest t draw).2 = { n with wanted := w } := by
  unfold chooseRequest
  simp only
  split
  · exact ⟨n.wanted, .refl _, rfl⟩
  · exact ⟨n.wanted.next.2, .next _, rfl⟩

theorem sendTo_eq (n : Node) (link : Link) (t : Transaction) (neighbor : Neighbor) (draw : Nat) :
    ∃ w, n.wanted.Turned w ∧ (n.sendTo link t neighbor draw).2 = { n with wanted := w } :=
  n.chooseRequest_eq t draw

theorem sendAll_eq (n : Node) (link : Link) (t : Transaction) (draws : Draws)
    (neighbors : List Neighbor) :
    ∃ w, n.wanted.Turned w ∧ (n.sendAll link t draws neighbors).2 = { n with wanted := w } := by
  induction neighbors generalizing n draws with
  | nil => exact ⟨n.wanted, .refl _, rfl⟩
  | cons neighbor rest ih =>
    obtain ⟨w, hw, heq⟩ := n.sendTo_eq link t neighbor (draws 0)
    obtain ⟨w', hw', heq'⟩ :=
      ih (n.sendTo link t neighbor (draws 0)).2 fun i => draws (i + 1)
    rw [heq] at hw'
    refine ⟨w', hw.trans hw', ?_⟩
    show ((n.sendTo link t neighbor (draws 0)).2.sendAll link t (fun i => draws (i + 1)) rest).2 = _
    rw [heq', heq]

theorem answer_eq (n : Node) (link : Link) (hash : Hash) (neighbor : Neighbor) (draws : Draws) :
    ∃ w, n.wanted.Turned w ∧ (n.answer link hash neighbor draws).2 = { n with wanted := w } := by
  have hsame : ∃ w, n.wanted.Turned w ∧ n = { n with wanted := w } := ⟨n.wanted, .refl _, rfl⟩
  unfold answer
  split
  · exact hsame
  · next t _ =>
    split
    · obtain ⟨w, hw, heq⟩ := n.sendTo_eq link t neighbor (draws 2)
      refine ⟨w, hw, ?_⟩
      split
      · next hsend => rw [hsend] at heq; exact heq
      · next hsend => rw [hsend] at heq; exact heq
    · exact hsame

/-- Answering counts a request for any tip, unless nothing is wanted. -/
theorem answerRequest_eq (n : Node) (link : Link) (r : Request) (draws : Draws) :
    ∃ w roster, n.wanted.Turned w ∧
      (roster = n.roster ∨ r.hash.isNull = true ∧ roster = n.roster.bump r.neighbor .random) ∧
      (n.answerRequest link r draws).2 = { n with wanted := w, roster } := by
  unfold answerRequest
  split
  · next hnull =>
    split
    · exact ⟨n.wanted, n.roster, .refl _, .inl rfl, rfl⟩
    · obtain ⟨w, hw, heq⟩ :=
        (n.bump r.neighbor .random).answer_eq link (n.anyTip draws) r.neighbor draws
      exact ⟨w, _, hw, .inr ⟨hnull, rfl⟩, heq⟩
  · obtain ⟨w, hw, heq⟩ := n.answer_eq link r.hash r.neighbor draws
    exact ⟨w, n.roster, hw, .inl rfl, heq⟩

theorem refreshNames_eq (n : Node) (names : NeighborUri.Resolver) (neighbors : List Neighbor) :
    ∃ roster, n.roster.Edited roster ∧ (n.refreshNames names neighbors).2 = { n with roster } := by
  induction neighbors generalizing n with
  | nil => exact ⟨n.roster, .refl _, rfl⟩
  | cons neighbor rest ih =>
    unfold refreshNames
    split
    · exact ih n
    · next hname =>
      split
      · exact ih n
      · next address _ =>
        split
        · exact ih n
        · next hmoved =>
          -- the neighbor is made again at its new address and takes the place of the old one
          obtain ⟨_, hknown⟩ := n.roster.make_grows neighbor.uri address true
          have hkeeps : (Roster.Edit.replace neighbor
              (n.roster.make neighbor.uri address true).1).KeepsName := by
            simp only [Bool.or_eq_true, Bool.not_eq_eq_eq_not, Bool.not_true, not_or,
              Bool.not_eq_false, Bool.not_eq_true, Option.isSome_eq_false_iff,
              Option.isNone_iff_eq_none] at hname
            exact ⟨hname.1, hname.2, rfl, hmoved⟩
          have hreplace := Roster.edit_edited hkeeps (Roster.replace_grows neighbor hknown)
          obtain ⟨roster, hroster, heq⟩ := ih { n with roster := _ }
          exact ⟨roster, ((n.roster.make_edited _ _ _).trans hreplace).trans hroster, heq⟩

end Node

end TernaryGossip
