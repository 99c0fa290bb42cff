import TernaryGossip.Proofs.Gossip.Effect

/-! # What a run stores

    Over one fault-free provider the log of first stores tells everything
    about the table of transactions: a hash is stored if it was stored at
    the start or stands in the log, no hash stands there twice or was stored
    at the start, and the table has grown by the length of the log. -/

namespace TernaryGossip.Node

/-- A provider kept the tables `T₀` at the start and keeps `T` after the
    events of a trace. -/
structure History (T₀ : Tables) (n : Node) (tr : Trace) (T : Tables) : Prop where
  keeps : n.store.Keeps T
  stored : ∀ h, T.Stored h ↔ T₀.Stored h ∨ ∃ r ∈ tr.log firstStored, r.transaction.hash = h
  size : (T.table .transaction).size =
    (T₀.table .transaction).size + (tr.log firstStored).length
  nodup : ((tr.log firstStored).map (·.transaction.hash)).Nodup
  fresh : ∀ r ∈ tr.log firstStored, ¬ T₀.Stored r.transaction.hash

theorem history_start {n : Node} {T : Tables} (h : n.store.Keeps T) : n.History T [] T where
  keeps := h
  stored := fun g => by simp [Trace.log]
  size := rfl
  nodup := List.nodup_nil
  fresh := fun _ hr => absurd hr List.not_mem_nil

namespace History

variable {T₀ T : Tables} {n n' : Node} {tr : Trace} {e : Event}

/-- An event that stores nothing new adds nothing to the history. -/
theorem idle (h : n.History T₀ tr T) (hfirst : n.firstStored e = none)
    (hstore : n'.store = n.store) : n'.History T₀ (tr ++ [(n, e)]) T := by
  have hlog := Trace.log_concat_none tr hfirst
  constructor
  case keeps =>
    rw [hstore]
    exact h.keeps
  case stored =>
    rw [hlog]
    exact h.stored
  case size =>
    rw [hlog]
    exact h.size
  case nodup =>
    rw [hlog]
    exact h.nodup
  case fresh =>
    rw [hlog]
    exact h.fresh

/-- A first store adds its transaction. -/
theorem first (h : n.History T₀ tr T) {r : Received} {T' : Tables}
    (hfirst : n.firstStored e = some r) (hnew : ¬ T.Stored r.transaction.hash)
    (hkeeps : n'.store.Keeps T') (hT' : (T.putAll r.transaction.puts).Alike T') :
    n'.History T₀ (tr ++ [(n, e)]) T' := by
  have hlog := Trace.log_concat_some tr hfirst
  -- the store would have known the hash if it were older
  have hunknown : ¬ (T₀.Stored r.transaction.hash ∨
      ∃ q ∈ tr.log firstStored, q.transaction.hash = r.transaction.hash) :=
    fun hk => hnew ((h.stored _).mpr hk)
  constructor
  case keeps => exact hkeeps
  case stored =>
    intro g
    rw [hT'.stored_iff, Transaction.stored_puts, h.stored, hlog]
    simp only [List.mem_append, List.mem_singleton, or_and_right, exists_or, exists_eq_left]
    rw [eq_comm (a := g), or_left_comm, or_comm (a := r.transaction.hash = g)]
  case size =>
    rw [hT' .transaction (by decide), Transaction.size_puts hnew, h.size, hlog]
    simp [Nat.add_assoc]
  case nodup =>
    -- a hash of the log is stored, the new one was not
    rw [hlog, List.map_append, List.nodup_append]
    refine ⟨h.nodup, by simp, ?_⟩
    intro a ha b hb hab
    obtain ⟨q, hq, rfl⟩ := List.mem_map.mp ha
    rw [List.map_singleton, List.mem_singleton] at hb
    exact hunknown (.inr ⟨q, hq, hab.trans hb⟩)
  case fresh =>
    intro q hq
    rw [hlog] at hq
    rcases List.mem_append.mp hq with hq | hq
    · exact h.fresh q hq
    · rw [List.mem_singleton.mp hq]
      exact fun hs => hunknown (.inl hs)

end History

theorem history_step {T₀ T : Tables} {n : Node} {tr : Trace} (h : n.History T₀ tr T) (e : Event) :
    ∃ T', (n.step e).History T₀ (tr ++ [(n, e)]) T' := by
  cases effectOver h.keeps e with
  | aside hfirst ha => exact ⟨T, h.idle hfirst ha.store⟩
  | known _ hfirst _ heq => exact ⟨T, h.idle hfirst (by rw [heq])⟩
  | first _ hfirst _ hnew hstore hT' heq =>
    exact ⟨_, h.first hfirst hnew (by rw [heq]; exact hstore) hT'⟩

theorem history_run {n : Node} {T : Tables} (h : n.store.Keeps T) (es : List Event) :
    ∃ T', (n.run es).History T (n.trace es) T' :=
  run_induction (P := fun m tr => ∃ T', m.History T tr T') ⟨T, history_start h⟩
    (fun _ _ e ⟨_, hm⟩ => history_step hm e) es

/-- What holds at the start and is kept by every event over a fault-free
    provider holds after a run. -/
theorem run_induction_over {P : Node → Trace → Prop} {n : Node} {T : Tables}
    (hkeeps : n.store.Keeps T) (hstart : P n [])
    (hstep : ∀ n tr e T', n.store.Keeps T' → P n tr → P (n.step e) (tr ++ [(n, e)]))
    (es : List Event) : P (n.run es) (n.trace es) := by
  refine (run_induction (P := fun m tr => (∃ T', m.History T tr T') ∧ P m tr)
    ⟨⟨T, history_start hkeeps⟩, hstart⟩ ?_ es).2
  intro m tr e ⟨⟨T', hhistory⟩, hm⟩
  exact ⟨history_step hhistory e, hstep m tr e T' hhistory.keeps hm⟩

end TernaryGossip.Node
