import TernaryGossip.Proofs.Gossip.Effect
import TernaryGossip.Proofs.Tangle.Loading
import TernaryGossip.Proofs.Transaction.Vouched

/-! # What an honest node keeps

    A node is honest if it received everything it has as packets.  It
    validates a payload once, when it arrives.  From then on the payload is
    stored, loaded and passed on under its hash without being hashed again,
    so that hash is right because every place where payloads wait or lie
    keeps them under the hash that they vouch for.

    The same goes for the hashes that are wanted: they are parents of
    accepted transactions, so their bytes are packed groups.

    Besides its own events, others may tell a node of tips and milestones
    and write records that are no payloads. -/

namespace TernaryGossip

/-! ## Tables of vouched payloads -/

/-- Every stored payload vouches for the hash that it is stored under. -/
def Tables.Vouches (T : Tables) (minWeight : Nat) : Prop :=
  ∀ h payload, (T.table .transaction).get? (Key.ofHash h) = some payload →
    Vouched minWeight h payload

namespace Tables.Vouches

variable {T T' : Tables} {minWeight : Nat}

theorem empty : Tables.Vouches .empty minWeight := by
  intro h payload hget
  cases hget

theorem congr (hT : T.Vouches minWeight)
    (hsame : T'.table .transaction = T.table .transaction) : T'.Vouches minWeight := by
  intro h payload hget
  rw [hsame] at hget
  exact hT h payload hget

theorem puts (hT : T.Vouches minWeight) {t : Transaction}
    (ht : Vouched minWeight t.hash t.payload) : (T.putAll t.puts).Vouches minWeight := by
  intro h payload hget
  rw [Transaction.table_transaction_puts] at hget
  by_cases hh : h = t.hash
  · rw [hh, OrderedMap.get?_insert_self] at hget
    obtain rfl : t.payload = payload := Option.some.inj hget
    rw [hh]
    exact ht
  · have hkey : Key.ofHash h ≠ Key.ofHash t.hash := fun heq => hh (Key.ofHash_inj.mp heq)
    rw [OrderedMap.get?_insert_of_ne _ _ hkey] at hget
    exact hT h payload hget

/-- What is loaded from a store with such tables has the hash that was asked
    for, although it is not computed again. -/
theorem loads (hT : T.Vouches minWeight) {h : Hash} {t : Transaction} (ht : T.Loads h t) :
    t.hash = h ∧ Vouched minWeight t.hash t.payload := by
  have hpayload := hT h t.payload ht.payload
  refine ⟨ht.hash, ?_⟩
  rw [ht.hash]
  exact hpayload

end Tables.Vouches

namespace Node

/-! ## Reachable nodes -/

/-- What becomes of a node by its own events, and by what others tell it and
    write into its store.  Others write no payloads. -/
inductive Reaches (start : Node) : Node → Trace → Prop
  /-- Nothing happened yet. -/
  | start : Reaches start start []
  /-- An event happens. -/
  | event {n : Node} {tr : Trace} (h : Reaches start n tr) (e : Event) :
      Reaches start (n.step e) (tr ++ [(n, e)])
  /-- The node is told of tips and milestones. -/
  | told {n : Node} {tr : Trace} (h : Reaches start n tr) (tips : Tips) (milestones : Milestones) :
      Reaches start { n with tips, milestones } tr
  /-- A record that is no payload is written into its store. -/
  | written {n : Node} {tr : Trace} (h : Reaches start n tr) {part : Partition}
      (hpart : part ≠ .transaction) (key value : Bytes) :
      Reaches start { n with store := (n.store.save part key value).2 } tr

/-- What events reach is reached. -/
theorem reaches_run (n : Node) (es : List Event) : Reaches n (n.run es) (n.trace es) :=
  run_induction (P := Reaches n) .start (fun _ _ e h => h.event e) es

/-- Neither events nor others change what the operator chose. -/
theorem settings_reaches {start n : Node} {tr : Trace} (h : Reaches start n tr) :
    n.config = start.config ∧ n.minWeight = start.minWeight := by
  induction h with
  | start => exact ⟨rfl, rfl⟩
  | @event n _ _ e ih =>
    obtain ⟨hconfig, hweight⟩ := n.settings_step e
    exact ⟨hconfig.trans ih.1, hweight.trans ih.2⟩
  | told _ _ _ ih => exact ih
  | written _ _ _ _ ih => exact ih

/-! ## The invariant -/

/-- Whatever the node may pass on vouches for its hash, and whatever it may
    ask for is a hash to others too. -/
structure Honest (n : Node) (T : Tables) : Prop where
  keeps : n.store.Keeps T
  /-- What is stored vouches for its hash. -/
  stored : T.Vouches n.minWeight
  /-- What waits to be stored was validated. -/
  received : ∀ r ∈ n.received.toList, validate n.minWeight r.transaction.payload = .ok r.transaction
  /-- What waits to be passed on vouches for its hash. -/
  outgoing : ∀ t ∈ n.outgoing.toList, Vouched n.minWeight t.hash t.payload
  /-- What is wanted can be read as a hash. -/
  wanted : ∀ h ∈ n.wanted.line, h.Valid

theorem honest_started {store : Store} (hkeeps : store.Keeps .empty) (config : GossipConfig)
    (minWeight : Nat) (tips : Tips) (milestones : Milestones) (wantedCapacity : Nat) :
    (started config minWeight store tips milestones wantedCapacity).Honest .empty where
  keeps := hkeeps
  stored := .empty
  received := fun _ hr => absurd hr List.not_mem_nil
  outgoing := fun _ ht => absurd ht List.not_mem_nil
  wanted := fun _ hh => absurd hh List.not_mem_nil

namespace Honest

variable {n n' : Node} {T : Tables} {e : Event}

/-- An event that takes nothing to store it. -/
theorem aside (h : n.Honest T) (ha : n.Aside e n') : n'.Honest T := by
  have hweight := ha.minWeight
  constructor
  case keeps =>
    rw [ha.store]
    exact h.keeps
  case stored =>
    rw [hweight]
    exact h.stored
  case received =>
    intro r hr
    rw [hweight]
    -- what waits was there before, or it is accepted now
    rcases ha.mem_received hr with hr | hr
    · exact (accepted_spec hr).2.2
    · exact h.received r hr
  case outgoing =>
    intro t ht
    rw [hweight]
    -- passing on takes one from the queue, and nothing else touches it
    have hout := ha.outgoing
    have hmem : t ∈ n.outgoing.toList := by
      rw [hout] at ht
      split at ht
      · cases hpop : n.outgoing.pop? with
        | none =>
          rw [hpop] at ht
          exact ht
        | some x =>
          rw [hpop] at ht
          exact WeightQueue.mem_of_mem_pop hpop ht
      · exact ht
    exact h.outgoing t hmem
  case wanted =>
    intro g hg
    exact h.wanted g (ha.wanted.line.mem_iff.mp hg)

/-- What is taken is stored already, so it only leaves the queue. -/
theorem known (h : n.Honest T) {r : Received} {received : WeightQueue Received}
    (hpop : n.received.pop? = some (r, received)) (seen : Seen) :
    Honest { n with received, seen } T where
  keeps := h.keeps
  stored := h.stored
  received := fun q hq => h.received q (WeightQueue.mem_of_mem_pop hpop hq)
  outgoing := h.outgoing
  wanted := h.wanted

/-- What is taken is stored, passed on, and its parents are wanted. -/
theorem first (h : n.Honest T) {r : Received} {received : WeightQueue Received} {store : Store}
    {T' : Tables} (hpop : n.received.pop? = some (r, received)) (hkeeps : store.Keeps T')
    (hT' : (T.putAll r.transaction.puts).Alike T') (seen : Seen) (roster : Roster) (tips : Tips)
    (clock : Int64) :
    Honest { n with
      received, store, seen, roster, tips
      wanted := ((n.wanted.requestAll (r.transaction.missingParents store)).clear
        r.transaction.hash).2
      outgoing := (n.outgoing.push r.transaction.priority
        (r.transaction.stamped clock r.neighbor.address.text)).2 } T' := by
  -- it was validated when it arrived
  have hvalid := h.received r (by rw [WeightQueue.toList_of_pop? hpop]; exact List.mem_cons_self)
  have hvouched : Vouched n.minWeight r.transaction.hash r.transaction.payload :=
    ⟨r.transaction, hvalid, rfl⟩
  have hlegible := Transaction.legible_of_decode (decode_of_validate hvalid)
  constructor
  case keeps => exact hkeeps
  case stored => exact (h.stored.puts hvouched).congr (hT' .transaction (by decide))
  case received =>
    intro q hq
    exact h.received q (WeightQueue.mem_of_mem_pop hpop hq)
  case outgoing =>
    intro t ht
    rcases WeightQueue.mem_of_mem_toList_push ht with rfl | ht
    · -- the stamp is no part of the payload
      exact hvouched
    · exact h.outgoing t ht
  case wanted =>
    intro g hg
    rw [Wanted.mem_clear] at hg
    rcases Wanted.mem_of_mem_requestAll hg.1 with hg | ⟨hg, _⟩
    · exact h.wanted g hg
    · -- a parent is read from the trits, and these are balanced
      have hparent := (List.mem_filter.mp hg).1
      simp only [List.mem_cons, List.not_mem_nil, or_false] at hparent
      rcases hparent with rfl | rfl
      · exact hlegible.valid_fieldHash Layout.trunk
      · exact hlegible.valid_fieldHash Layout.branch

end Honest

theorem honest_step {n : Node} {T : Tables} (h : n.Honest T) (e : Event) :
    ∃ T', (n.step e).Honest T' := by
  cases effectOver h.keeps e with
  | aside _ ha => exact ⟨T, h.aside ha⟩
  | known _ _ hpop heq =>
    rw [heq]
    exact ⟨T, h.known hpop _⟩
  | first _ _ hpop _ hstore hT' heq =>
    rw [heq]
    exact ⟨_, h.first hpop hstore hT' _ _ _ _⟩

/-- A record that is no payload leaves the payloads alone. -/
theorem honest_written {n : Node} {T : Tables} (h : n.Honest T) {part : Partition}
    (hpart : part ≠ .transaction) (key value : Bytes) :
    ∃ T', Honest { n with store := (n.store.save part key value).2 } T' := by
  obtain ⟨s', hsave, hs'⟩ := h.keeps.save part key value
  have hsame : (T.put part key value).table .transaction = T.table .transaction :=
    Tables.table_put_of_ne T _ _ (Ne.symm hpart)
  refine ⟨T.put part key value, ?_⟩
  rw [hsave]
  exact ⟨hs', h.stored.congr hsame, h.received, h.outgoing, h.wanted⟩

/-- A node that starts honest stays honest. -/
theorem honest_reaches {start n : Node} {tr : Trace} {T : Tables} (hstart : start.Honest T)
    (h : Reaches start n tr) : ∃ T', n.Honest T' := by
  induction h with
  | start => exact ⟨T, hstart⟩
  | event _ e ih =>
    obtain ⟨T', hn⟩ := ih
    exact honest_step hn e
  | told _ _ _ ih =>
    obtain ⟨T', hn⟩ := ih
    exact ⟨T', hn.keeps, hn.stored, hn.received, hn.outgoing, hn.wanted⟩
  | written _ hpart key value ih =>
    obtain ⟨T', hn⟩ := ih
    exact honest_written hn hpart key value

end Node

end TernaryGossip
