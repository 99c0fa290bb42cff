import TernaryGossip.Proofs.Gossip.Once
import TernaryGossip.Proofs.Transaction.Building

/-! # What is wanted is missing

    A first store makes the missing parents of its transaction wanted, and
    the transaction itself no longer wanted.  Over one fault-free provider
    nothing that is stored is ever wanted.  As long as the line of wanted
    hashes has room, it holds every missing parent of what a run stored. -/

namespace TernaryGossip.Node

/-- The hashes that leave the full line when a first store makes the missing
    parents of its transaction wanted. -/
def crowdedOut (n : Node) (e : Event) : List Hash :=
  match n.firstStored e with
  | some r => n.wanted.dropped (r.transaction.missingParents (n.step e).store)
  | none => []

/-- No hash leaves a line with room for two more. -/
theorem crowdedOut_eq_nil {n : Node} (hroom : n.wanted.line.length + 2 ≤ n.wanted.capacity)
    (e : Event) : n.crowdedOut e = [] := by
  unfold crowdedOut
  split
  · next r _ =>
    have htwo : (r.transaction.missingParents (n.step e).store).length ≤ 2 :=
      List.length_filter_le _ [r.transaction.trunk, r.transaction.branch]
    exact Wanted.dropped_eq_nil (by omega)
  · rfl

theorem mem_missingParents {t : Transaction} {s : Store} {T : Tables} (hkeeps : s.Keeps T)
    {h : Hash} :
    h ∈ t.missingParents s ↔ (t.trunk = h ∨ t.branch = h) ∧ ¬ T.Stored h := by
  rw [Transaction.missingParents, List.mem_filter, decide_eq_true_iff, hkeeps.stored_iff,
    List.mem_cons, List.mem_singleton, eq_comm (a := h), eq_comm (a := h)]

/-- No wanted hash is null or stored.  Unless some hash left the full line,
    the wanted hashes are the missing parents of what was stored. -/
structure Seeking (n : Node) (tr : Trace) (T : Tables) : Prop where
  keeps : n.store.Keeps T
  missing : ∀ h ∈ n.wanted.line, ¬ h.isNull = true ∧ ¬ T.Stored h
  wanted : (∀ x ∈ tr, x.1.crowdedOut x.2 = []) → ∀ h, ¬ h.isNull = true → ¬ T.Stored h →
    ∀ r ∈ tr.log firstStored, r.transaction.trunk = h ∨ r.transaction.branch = h →
      h ∈ n.wanted.line
  referred : ∀ h ∈ n.wanted.line, ∃ r ∈ tr.log firstStored,
    r.transaction.trunk = h ∨ r.transaction.branch = h

namespace Seeking

variable {n n' : Node} {tr : Trace} {T : Tables} {e : Event}

/-- An event that stores nothing new may only turn the line around. -/
theorem idle (h : n.Seeking tr T) (hfirst : n.firstStored e = none)
    (hstore : n'.store = n.store) (hturned : n.wanted.Turned n'.wanted) :
    n'.Seeking (tr ++ [(n, e)]) T := by
  have hlog := Trace.log_concat_none tr hfirst
  have hmem : ∀ g, g ∈ n'.wanted.line ↔ g ∈ n.wanted.line := fun _ => hturned.line.mem_iff
  constructor
  case keeps =>
    rw [hstore]
    exact h.keeps
  case missing =>
    intro g hg
    exact h.missing g ((hmem g).mp hg)
  case wanted =>
    intro hroom g hnull hstored r hr hrefers
    rw [hlog] at hr
    have hbefore := fun x hx => hroom x (List.mem_append_left _ hx)
    exact (hmem g).mpr (h.wanted hbefore g hnull hstored r hr hrefers)
  case referred =>
    intro g hg
    rw [hlog]
    exact h.referred g ((hmem g).mp hg)

/-- A first store adds what its transaction lacks, and takes away its hash. -/
theorem first (h : n.Seeking tr T) {r : Received} {store : Store} {T' : Tables}
    (hfirst : n.firstStored e = some r) (hkeeps : store.Keeps T')
    (hT' : (T.putAll r.transaction.puts).Alike T') (hnext : (n.step e).store = store)
    (hwanted : (n.step e).wanted =
      ((n.wanted.requestAll (r.transaction.missingParents store)).clear r.transaction.hash).2) :
    (n.step e).Seeking (tr ++ [(n, e)]) T' := by
  have hstored : ∀ g, T'.Stored g ↔ g = r.transaction.hash ∨ T.Stored g := by
    intro g
    rw [hT'.stored_iff, Transaction.stored_puts]
  constructor
  case keeps =>
    rw [hnext]
    exact hkeeps
  case missing =>
    intro g hg
    rw [hwanted, Wanted.mem_clear] at hg
    obtain ⟨hg, hother⟩ := hg
    -- it was wanted before, or it is one of the missing parents
    rcases Wanted.mem_of_mem_requestAll hg with hg | ⟨hg, hnull⟩
    · obtain ⟨hnull, hunknown⟩ := h.missing g hg
      exact ⟨hnull, fun hs => ((hstored g).mp hs).elim hother hunknown⟩
    · exact ⟨hnull, ((mem_missingParents hkeeps).mp hg).2⟩
  case wanted =>
    intro hroom g hnull hunknown q hq hrefers
    have hbefore := fun x hx => hroom x (List.mem_append_left _ hx)
    have hdropped : n.wanted.dropped (r.transaction.missingParents store) = [] := by
      have := hroom (n, e) (List.mem_append_right _ List.mem_cons_self)
      rwa [crowdedOut, hfirst, hnext] at this
    -- what is missing is not the transaction that is stored now
    rw [hwanted, Wanted.mem_clear, Wanted.mem_requestAll hdropped]
    refine ⟨?_, fun heq => hunknown ((hstored g).mpr (.inl heq))⟩
    rcases Trace.mem_log_concat.mp hq with hq | hq
    · exact .inl (h.wanted hbefore g hnull (fun hs => hunknown ((hstored g).mpr (.inr hs))) q hq
        hrefers)
    · rw [hfirst] at hq
      cases hq
      exact .inr ⟨(mem_missingParents hkeeps).mpr ⟨hrefers, hunknown⟩, hnull⟩
  case referred =>
    intro g hg
    rw [hwanted, Wanted.mem_clear] at hg
    rcases Wanted.mem_of_mem_requestAll hg.1 with hg | ⟨hg, _⟩
    · obtain ⟨q, hq, hrefers⟩ := h.referred g hg
      exact ⟨q, Trace.mem_log_concat.mpr (.inl hq), hrefers⟩
    · exact ⟨r, Trace.mem_log_concat.mpr (.inr hfirst), ((mem_missingParents hkeeps).mp hg).1⟩

end Seeking

theorem seeking_step {n : Node} {tr : Trace} {T : Tables} (h : n.Seeking tr T) (e : Event) :
    ∃ T', (n.step e).Seeking (tr ++ [(n, e)]) T' := by
  cases effectOver h.keeps e with
  | aside hfirst ha => exact ⟨T, h.idle hfirst ha.store ha.wanted⟩
  | known _ hfirst _ heq =>
    exact ⟨T, h.idle hfirst (by rw [heq]) (by rw [heq]; exact .refl _)⟩
  | first _ hfirst _ _ hstore hT' heq =>
    exact ⟨_, h.first hfirst hstore hT' (by rw [heq]) (by rw [heq])⟩

theorem seeking_run {n : Node} {T : Tables} (h : n.Seeking [] T) (es : List Event) :
    ∃ T', (n.run es).Seeking (n.trace es) T' :=
  run_induction (P := fun m tr => ∃ T', m.Seeking tr T') ⟨T, h⟩
    (fun _ _ e ⟨_, hm⟩ => seeking_step hm e) es

/-- If nothing is wanted at the start of a run, nothing null or stored is
    wanted after it.  If moreover no hash left the full line, the wanted
    hashes are the missing parents of the transactions stored in the run. -/
theorem wanted_are_missing {n : Node} {T : Tables} (hkeeps : n.store.Keeps T)
    (hnone : n.wanted.line = []) (es : List Event) :
    (∀ h ∈ (n.run es).wanted.line, ¬ h.isNull = true ∧ ¬ (n.run es).store.Stored h) ∧
    ((∀ x ∈ n.trace es, x.1.crowdedOut x.2 = []) → ∀ h, h ∈ (n.run es).wanted.line ↔
      ¬ h.isNull = true ∧ ¬ (n.run es).store.Stored h ∧
        ∃ r ∈ (n.trace es).log firstStored,
          r.transaction.trunk = h ∨ r.transaction.branch = h) := by
  have hstart : n.Seeking [] T := by
    constructor
    · exact hkeeps
    · simp [hnone]
    · exact fun _ _ _ _ _ hr => absurd hr List.not_mem_nil
    · simp [hnone]
  obtain ⟨T', h⟩ := seeking_run hstart es
  have hmissing : ∀ g ∈ (n.run es).wanted.line,
      ¬ g.isNull = true ∧ ¬ (n.run es).store.Stored g := by
    intro g hg
    rw [h.keeps.stored_iff]
    exact h.missing g hg
  refine ⟨hmissing, fun hroom g => ⟨fun hg => ?_, fun ⟨hnull, hunknown, r, hr, hrefers⟩ => ?_⟩⟩
  · -- this inclusion holds whether or not the line has room
    obtain ⟨hnull, hunknown⟩ := hmissing g hg
    exact ⟨hnull, hunknown, h.referred g hg⟩
  · rw [h.keeps.stored_iff] at hunknown
    exact h.wanted hroom g hnull hunknown r hr hrefers

/-! ### A transaction with two parents -/

/-- The two parents of a transaction, which are different. -/
def twoParents : List Setting := [.trunk (.ofTrits [1]), .branch (.ofTrits [-1])]

/-- A transaction with two different parents. -/
def child : Transaction := (Draft.empty.setAll twoParents).build

theorem proper_twoParents : ∀ s ∈ twoParents, s.Proper := by
  intro s hs
  simp only [twoParents, List.mem_cons, List.not_mem_nil, or_false] at hs
  rcases hs with rfl | rfl
  · exact ⟨[1], by decide, rfl⟩
  · exact ⟨[-1], by decide, rfl⟩

theorem validate_child : validate 0 child.payload = .ok child :=
  Draft.validate_build proper_twoParents

theorem trunk_child : child.trunk = .ofTrits [1] :=
  Draft.readIn_build proper_twoParents (by decide) (s := .trunk _) List.mem_cons_self

theorem branch_child : child.branch = .ofTrits [-1] :=
  Draft.readIn_build proper_twoParents (by decide) (s := .branch _)
    (List.mem_cons_of_mem _ List.mem_cons_self)

/-- Nothing but the transaction that arrived is stored in memory. -/
theorem stored_arrives {payload : Bytes} {t : Transaction} (hvalid : validate 0 payload = .ok t)
    (h : Hash) :
    ((started .standard 0 ⟨[Provider.memory]⟩ .empty .empty 2).run
      (arrives payload)).store.Stored h ↔ t.hash = h := by
  have hkeeps : Store.Keeps ⟨[Provider.memory]⟩ .empty := Store.keeps_fresh "memory"
  obtain ⟨_, hhistory⟩ := history_run
    (n := started .standard 0 ⟨[Provider.memory]⟩ .empty .empty 2) hkeeps (arrives payload)
  have hnothing : ¬ Tables.Stored .empty h := Bool.false_ne_true
  rw [hhistory.keeps.stored_iff, hhistory.stored, firstStored_arrives hvalid]
  simp [hnothing]

/-- A transaction with two different parents is stored in memory.  Its
    missing parents are wanted, and at least one of them is missing, since
    the transaction is not both of them. -/
theorem wanted_are_missing_child :
    let n := (started .standard 0 ⟨[Provider.memory]⟩ .empty .empty 2).run
      (arrives child.payload)
    (∀ h, h ∈ n.wanted.line ↔
      ¬ h.isNull = true ∧ ¬ n.store.Stored h ∧ (child.trunk = h ∨ child.branch = h)) ∧
    (child.trunk ∈ n.wanted.line ∨ child.branch ∈ n.wanted.line) := by
  have hkeeps : Store.Keeps ⟨[Provider.memory]⟩ .empty := Store.keeps_fresh "memory"
  obtain ⟨_, hwanted⟩ := wanted_are_missing
    (n := started .standard 0 ⟨[Provider.memory]⟩ .empty .empty 2) hkeeps rfl
    (arrives child.payload)
  have hroom : ∀ x ∈ (started .standard 0 ⟨[Provider.memory]⟩ .empty .empty 2).trace
      (arrives child.payload), x.1.crowdedOut x.2 = [] := by
    obtain ⟨requests, hsend⟩ := step_sends ⟨[Provider.memory]⟩ validate_child
    rw [trace_arrives, hsend]
    intro x hx
    apply crowdedOut_eq_nil
    simp only [List.mem_cons, List.not_mem_nil, or_false] at hx
    rcases hx with rfl | rfl | rfl
    · exact Nat.le_refl 2
    · exact Nat.le_refl 2
    · exact Nat.le_refl 2
  have hparents := hwanted hroom
  simp only [firstStored_arrives validate_child, List.mem_singleton, exists_eq_left] at hparents
  refine ⟨hparents, ?_⟩
  rw [hparents, hparents, stored_arrives validate_child, stored_arrives validate_child, trunk_child,
    branch_child]
  by_cases htrunk : child.hash = .ofTrits [1]
  · refine .inr ⟨by decide, ?_, .inr rfl⟩
    rw [htrunk]
    decide
  · exact .inl ⟨by decide, htrunk, .inl rfl⟩

end TernaryGossip.Node
