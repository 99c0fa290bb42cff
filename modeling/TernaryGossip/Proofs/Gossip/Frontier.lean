import TernaryGossip.Proofs.Gossip.Once
import TernaryGossip.Proofs.Tangle.TipSet

/-! # Tips follow the store

    A node loads its tips once and then keeps them up to date, one first
    store at a time.  Over one fault-free provider this gives what loading
    them anew would give, in whatever order transactions arrive and whenever
    tips are marked as solid. -/

namespace TernaryGossip

/-- The transactions stored before and during a trace. -/
def Trace.stored (tr : Trace) (before : List Transaction) : List Transaction :=
  before ++ (tr.log Node.firstStored).map (·.transaction)

theorem Trace.stored_nil (before : List Transaction) : Trace.stored [] before = before :=
  List.append_nil before

theorem Trace.stored_concat_none (tr : Trace) {n : Node} {e : Event}
    (h : n.firstStored e = none) (before : List Transaction) :
    Trace.stored (tr ++ [(n, e)]) before = tr.stored before := by
  rw [stored, log_concat_none _ h, stored]

theorem Trace.stored_concat_some (tr : Trace) {n : Node} {e : Event} {r : Received}
    (h : n.firstStored e = some r) (before : List Transaction) :
    Trace.stored (tr ++ [(n, e)]) before = tr.stored before ++ [r.transaction] := by
  rw [stored, log_concat_some _ h, List.map_append, stored, List.append_assoc, List.map_singleton]

namespace Node

/-- The tips are the frontier of all that was ever stored. -/
structure Tipped (before : List Transaction) (n : Node) (tr : Trace) (T : Tables) : Prop where
  keeps : n.store.Keeps T
  written : T.Written (tr.stored before)
  apart : n.tips.Apart
  frontier : ∀ h, h ∈ n.tips.toList ↔ Frontier (tr.stored before) h

namespace Tipped

variable {before : List Transaction} {n n' : Node} {tr : Trace} {T : Tables} {e : Event}

/-- An event that stores nothing new may only mark tips. -/
theorem idle (h : n.Tipped before tr T) (hfirst : n.firstStored e = none)
    (hstore : n'.store = n.store)
    (htips : n'.tips = n.tips ∨ ∃ g, n'.tips = (n.tips.markSolid g).2) :
    n'.Tipped before (tr ++ [(n, e)]) T := by
  have hsame := Trace.stored_concat_none tr hfirst before
  constructor
  case keeps =>
    rw [hstore]
    exact h.keeps
  case written =>
    rw [hsame]
    exact h.written
  case apart =>
    rcases htips with htips | ⟨g, htips⟩
    · rw [htips]
      exact h.apart
    · rw [htips]
      exact h.apart.markSolid g
  case frontier =>
    intro g
    rw [hsame, ← h.frontier]
    rcases htips with htips | ⟨solid, htips⟩
    · rw [htips]
    · rw [htips, Tips.mem_markSolid]

/-- A first store moves the frontier. -/
theorem first (h : n.Tipped before tr T) {r : Received} {T' : Tables}
    (hfirst : n.firstStored e = some r) (hnew : ¬ T.Stored r.transaction.hash)
    (hkeeps : n'.store.Keeps T') (hT' : (T.putAll r.transaction.puts).Alike T')
    (htips : n'.tips = n.tips.withStored T' r.transaction) :
    n'.Tipped before (tr ++ [(n, e)]) T' := by
  have hmore := Trace.stored_concat_some tr hfirst before
  have hwritten : T'.Written (tr.stored before ++ [r.transaction]) :=
    (h.written.store hnew).alike hT'
  constructor
  case keeps => exact hkeeps
  case written =>
    rw [hmore]
    exact hwritten
  case apart =>
    rw [htips]
    exact h.apart.withStored h.written hnew h.frontier
  case frontier =>
    intro g
    rw [hmore, htips]
    exact Tips.mem_withStored h.written hnew h.frontier h.apart hwritten g

end Tipped

theorem tipped_step {before : List Transaction} {n : Node} {tr : Trace} {T : Tables}
    (h : n.Tipped before tr T) (e : Event) : ∃ T', (n.step e).Tipped before (tr ++ [(n, e)]) T' := by
  cases effectOver h.keeps e with
  | aside hfirst ha =>
    refine ⟨T, h.idle hfirst ha.store ?_⟩
    -- marking a tip is the one event beside storing that touches them
    have htips := ha.tips
    cases e with
    | markSolid g => exact .inr ⟨g, htips⟩
    | _ => exact .inl htips
  | known _ hfirst _ heq => exact ⟨T, h.idle hfirst (by rw [heq]) (.inl (by rw [heq]))⟩
  | first _ hfirst _ hnew hstore hT' heq =>
    exact ⟨_, h.first hfirst hnew (by rw [heq]; exact hstore) hT' (by rw [heq])⟩

theorem tipped_run {before : List Transaction} {n : Node} {T : Tables}
    (h : n.Tipped before [] T) (es : List Event) :
    ∃ T', (n.run es).Tipped before (n.trace es) T' :=
  run_induction (P := fun m tr => ∃ T', m.Tipped before tr T') ⟨T, h⟩
    (fun _ _ e ⟨_, hm⟩ => tipped_step hm e) es

/-- After every run the tips are the stored transactions that no stored one
    has as its trunk or branch, and a fresh set of tips would load the same. -/
theorem tips_are_frontier {store : Store} {T : Tables} {before : List Transaction}
    {k : Nat} {tips : Tips} (hkeeps : store.Keeps T) (hwritten : T.Written before)
    (hload : Tips.empty.load store = .ok (k, tips)) (config : GossipConfig) (minWeight : Nat)
    (milestones : Milestones) (wantedCapacity : Nat) (es : List Event) :
    let start := started config minWeight store tips milestones wantedCapacity
    let n := start.run es
    let stored := (start.trace es).stored before
    (∃ T', n.store.Keeps T' ∧ T'.Written stored) ∧
    (∀ h, n.store.Stored h ↔ ∃ t ∈ stored, t.hash = h) ∧
    (∀ h, h ∈ n.tips.nonSolid ++ n.tips.solid ↔
      (∃ t ∈ stored, t.hash = h) ∧ ∀ u ∈ stored, u.trunk ≠ h ∧ u.branch ≠ h) ∧
    ∃ k' tips', Tips.empty.load n.store = .ok (k', tips') ∧
      ∀ h, h ∈ n.tips.nonSolid ++ n.tips.solid ↔ h ∈ tips'.nonSolid ++ tips'.solid := by
  intro start n stored
  -- the tips at the start are what was loaded
  obtain ⟨k₀, tips₀, hload₀, hapart, hfrontier⟩ := Tips.load_empty hkeeps hwritten
  rw [hload] at hload₀
  cases hload₀
  have hstart : start.Tipped before [] T := by
    constructor
    · exact hkeeps
    · rw [Trace.stored_nil]
      exact hwritten
    · exact hapart
    · rw [Trace.stored_nil]
      exact hfrontier
  obtain ⟨T', htipped⟩ := tipped_run hstart es
  -- loading again finds the frontier as well
  obtain ⟨k', tips', hload', _, hfrontier'⟩ := Tips.load_empty htipped.keeps htipped.written
  refine ⟨⟨T', htipped.keeps, htipped.written⟩, ?_, htipped.frontier, k', tips', hload', ?_⟩
  · intro h
    rw [htipped.keeps.stored_iff, htipped.written.stored_iff]
  · intro h
    exact (htipped.frontier h).trans (hfrontier' h).symm

/-- Once the first packet of a neighbor is stored in memory, the tips are the
    frontier of its transaction. -/
theorem tips_are_frontier_zeros :
    ∃ t, validate 0 Transaction.zeros = .ok t ∧
      let n := (started .standard 0 ⟨[Provider.memory]⟩ .empty .empty 2).run
        (arrives Transaction.zeros)
      ∀ h, h ∈ n.tips.nonSolid ++ n.tips.solid ↔ h = t.hash ∧ t.trunk ≠ h ∧ t.branch ≠ h := by
  obtain ⟨t, hvalid⟩ := validate_zeros
  have hkeeps : Store.Keeps ⟨[Provider.memory]⟩ .empty := Store.keeps_fresh "memory"
  have hload : Tips.empty.load ⟨[Provider.memory]⟩ = .ok (0, .empty) := rfl
  obtain ⟨_, _, hfrontier, _⟩ :=
    tips_are_frontier hkeeps .empty hload .standard 0 .empty 2 (arrives Transaction.zeros)
  refine ⟨t, hvalid, fun h => (hfrontier h).trans ?_⟩
  rw [Trace.stored, firstStored_arrives hvalid]
  simp [eq_comm]

end Node

end TernaryGossip
