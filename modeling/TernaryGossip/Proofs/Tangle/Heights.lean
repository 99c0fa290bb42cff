import TernaryGossip.Proofs.Tangle.Ascent

/-! # Heights are distances

    Giving heights to a transaction, down the trunks and up again, makes the
    heights on its chain the distances to the null hash, if the chain leads
    there, and does nothing else.

    So the stored heights are sound after any transactions were stored and
    any heights were given, in any order. -/

namespace TernaryGossip

/-! ## One chain -/

/-- What giving heights to a transaction `t` does: the result `r`, the
    transaction `t'` in memory and the tables `T'` afterwards. -/
structure Tables.HeightsGiven (T : Tables) (t : Transaction) (r : Except StorageError Unit)
    (t' : Transaction) (T' : Tables) : Prop where
  /-- It succeeds if everything that is stored on the chain can be read. -/
  succeeds : (∀ g, T.Chain t.hash g → g.isNull = false → T.Stored g → ∃ u, T.Loads g u) →
    r = .ok ()
  /-- If the chain reaches the null hash, the height of every transaction of
  it is its distance. -/
  reached : ∀ n, T.Distance t.hash n → r = .ok () →
    ∀ g m u, T.Chain t.hash g → T.Distance g m → m < 2 ^ 64 → T.Loads g u →
      T'.Loads g { u with facts := u.facts.withHeight (UInt64.ofNat m) }
  /-- If it does not, or if something cannot be read, nothing changes. -/
  unreached : (∀ n, ¬ T.Distance t.hash n) ∨ r ≠ .ok () → T' = T ∧ t' = t
  /-- The transaction in memory agrees with what is stored. -/
  in_step : T'.Loads t.hash t'
  /-- Only heights of the chain are written. -/
  frame : T.Alike T' ∧ ∀ key, (∀ g, T.Chain t.hash g → key ≠ Key.ofFact g 3) →
    (T'.table .transactionMetadata).get? key = (T.table .transactionMetadata).get? key
  /-- The heights stay sound. -/
  sound : T'.Sound

namespace Transaction

variable {s : Store} {T : Tables} {t : Transaction}

/-- Where the heights of a chain are distances, they stay as they are. -/
theorem withHeight_of_chain (hacyclic : T.Acyclic) (hsound : T.Sound) {h g : Hash} {n : Nat}
    {u : Transaction} (hh : h.isNull = true ∨ T.height h ≠ 0) (hchain : T.Chain h g)
    (hn : T.Distance g n) (hu : T.Loads g u) :
    { u with facts := u.facts.withHeight (UInt64.ofNat n) } = u := by
  have hheight := hsound.height_of_chain hacyclic hchain hh hn
  have hfacts : u.facts.withHeight (UInt64.ofNat n) = u.facts := by
    apply Metadata.withHeight_of_eq
    rw [hu.height_eq, ← hheight, UInt64.ofNat_toNat]
  rw [hfacts]

/-- The descent ended where heights are known. -/
theorem heightsGiven_of_raised {T' : Tables} {t' : Transaction} {passed : List Hash} {k : Hash}
    (hacyclic : T.Acyclic) (hsound : T.Sound) (hd : T.Descent t.hash passed k)
    (hground : k.isNull = true ∨ T.height k ≠ 0) (ht' : T'.Loads t.hash t')
    (hraised : T.Raised (passed ++ [t.hash]) T') : T.HeightsGiven t (.ok ()) t' T' where
  succeeds _ := rfl
  reached := by
    intro n _ _ g m u hg hm hfits hu
    by_cases hmem : g ∈ passed ++ [t.hash]
    · exact hraised.distances g hmem m u hm hfits hu
    · -- below the end the heights were right before, and are not touched
      have hchain : T.Chain k g := (hd.mem_or_chain hg).resolve_left hmem
      rw [withHeight_of_chain hacyclic hsound hground hchain hm hu]
      refine (Tables.loads_congr hraised.alike fun tag => hraised.frame _ ?_).mpr hu
      intro x hx heq
      exact hmem ((Key.ofFact_inj.mp heq).1 ▸ hx)
  unreached := by
    intro hnone
    have hk : ∃ m, T.Distance k m := by
      rcases hground with hnull | hh
      · exact ⟨0, .null hnull⟩
      · exact ⟨_, hsound.distance hacyclic hh⟩
    obtain ⟨m, hm⟩ := hk
    obtain ⟨n, _, hn⟩ := hd.distance hacyclic hm (x := t.hash) (by simp)
    rcases hnone with hnone | herror
    · exact absurd hn (hnone n)
    · exact absurd rfl herror
  in_step := ht'
  frame := by
    refine ⟨hraised.alike, fun key hkey => hraised.frame key fun x hx => ?_⟩
    exact hkey x (hd.chain_of_mem hx)
  sound := hraised.sound

/-- The descent ended at a payload that is missing. -/
theorem heightsGiven_of_missing {passed : List Hash} {k : Hash} (hacyclic : T.Acyclic)
    (hsound : T.Sound) (ht : T.Loads t.hash t) (hd : T.Descent t.hash passed k)
    (hnull : k.isNull = false) (hmissing : ¬ T.Stored k) : T.HeightsGiven t (.ok ()) t T where
  succeeds _ := rfl
  reached := by
    intro n hn _ g m u hg hm _ hu
    by_cases hthash : t.hash.isNull = true
    · rwa [withHeight_of_chain hacyclic hsound (.inl hthash) hg hm hu]
    · -- the chain does not reach the null hash, since it ends before
      obtain ⟨m, hm⟩ := hd.distance_end (by simpa using hthash) hn
      cases hm with
      | null hk => rw [hnull] at hk; cases hk
      | above _ htrunk _ => exact absurd htrunk.stored hmissing
  unreached _ := ⟨rfl, rfl⟩
  in_step := ht
  frame := ⟨.refl T, fun _ _ => rfl⟩
  sound := hsound

/-- Something on the chain cannot be read. -/
theorem heightsGiven_of_unreadable (hsound : T.Sound) (ht : T.Loads t.hash t) (e : StorageError)
    (hunreadable : ¬ ∀ g, T.Chain t.hash g → g.isNull = false → T.Stored g → ∃ u, T.Loads g u) :
    T.HeightsGiven t (.error e) t T where
  succeeds hreadable := absurd hreadable hunreadable
  reached _ _ hok := absurd hok (by simp)
  unreached _ := ⟨rfl, rfl⟩
  in_step := ht
  frame := ⟨.refl T, fun _ _ => rfl⟩
  sound := hsound

/-- The heights of one chain are given. -/
theorem updateHeights_given (hs : s.Keeps T) (hacyclic : T.Acyclic) (hsound : T.Sound)
    (ht : T.Loads t.hash t) :
    ∃ r t' s' T', t.updateHeights s = (r, t', s') ∧ s'.Keeps T' ∧ T.HeightsGiven t r t' T' := by
  have hd : T.Descent t.hash [] t.trunk := .start ht.trunk
  have hsize : (T.table .transaction).size <
      ([] : List Hash).length + (s.totalSize .transaction + 1) := by
    rw [hs.totalSize, List.length_nil]
    omega
  cases hload : load s t.trunk with
  | error e =>
    refine ⟨.error e, t, s, T, by rw [updateHeights, hload], hs, ?_⟩
    refine heightsGiven_of_unreadable hsound ht e fun hreadable => ?_
    obtain ⟨w, hw⟩ := exists_load hs (hreadable t.trunk hd.chain)
    rw [hload] at hw
    cases hw
  | ok trunk =>
    cases hrun : descend s (s.totalSize .transaction + 1) [] trunk with
    | error e =>
      have hupdate : t.updateHeights s = (.error e, t, s) := by
        rw [updateHeights, hload]
        simp only [hrun]
      refine ⟨.error e, t, s, T, hupdate, hs, ?_⟩
      refine heightsGiven_of_unreadable hsound ht e fun hreadable => ?_
      obtain ⟨r, hr⟩ := exists_descend hs hreadable hd hload (s.totalSize .transaction + 1)
      rw [hrun] at hr
      cases hr
    | ok r =>
      obtain ⟨passed, bottom⟩ := r
      obtain ⟨hd', hload', hstop⟩ := descend_ok hs hacyclic hd hload hsize hrun
      have hupdate : t.updateHeights s = ascend t s passed bottom := by
        rw [updateHeights, hload]
        simp only [hrun]
      rw [hupdate]
      by_cases hground : bottom.hash.isNull = true ∨ bottom.facts.height ≠ 0
      · obtain ⟨t', s', T', hascend, hs', ht', hraised⟩ :=
          ascend_grounded hs hacyclic hsound ht hd' hload' hground
        refine ⟨.ok (), t', s', T', hascend, hs', ?_⟩
        refine heightsGiven_of_raised hacyclic hsound hd' ?_ ht' hraised
        rcases hs.load_ok_iff.mp hload' with ⟨hplaceholder, _⟩ | ⟨_, hbottom⟩
        · exact .inl (hground.resolve_right fun hh => hh (by rw [hplaceholder]; rfl))
        · rwa [← hbottom.height_eq]
      · simp only [not_or, Bool.not_eq_true, not_not] at hground
        obtain ⟨hnull, hzero⟩ := hground
        refine ⟨.ok (), t, s, T, ascend_of_zero hs hnull hzero hd', hs, ?_⟩
        refine heightsGiven_of_missing hacyclic hsound ht hd' hnull ?_
        -- a stored transaction would have been passed
        rcases hs.load_ok_iff.mp hload' with ⟨_, hmissing⟩ | ⟨_, hbottom⟩
        · exact hmissing.resolve_left (by simp [hnull])
        · exact absurd ⟨hzero, isFilled_of_loads hbottom, hnull⟩ hstop

/-! ## Any run -/

/-- The stores that are reached by storing transactions and giving heights,
    in any order.  Heights are given to transactions that are in step with
    what is stored, while there is no circle. -/
inductive HeightRun (s₀ : Store) : Store → Prop
  /-- The beginning. -/
  | start : HeightRun s₀ s₀
  /-- A transaction is stored. -/
  | store {s : Store} (hrun : HeightRun s₀ s) (t : Transaction) : HeightRun s₀ (t.store s).2
  /-- Heights are given. -/
  | update {s : Store} {T : Tables} {t : Transaction} (hrun : HeightRun s₀ s) (hs : s.Keeps T)
      (hacyclic : T.Acyclic) (ht : T.Loads t.hash t) : HeightRun s₀ (t.updateHeights s).2.2

theorem HeightRun.sound {s₀ : Store} {T₀ : Tables} (hs₀ : s₀.Keeps T₀) (hsound₀ : T₀.Sound)
    (hrun : HeightRun s₀ s) : ∃ T, s.Keeps T ∧ T.Sound := by
  induction hrun with
  | start => exact ⟨T₀, hs₀, hsound₀⟩
  | store _ t ih =>
    obtain ⟨T, hs, hsound⟩ := ih
    rcases hs.store_cases t with ⟨_, hans⟩ | ⟨hnew, s', hans, hs'⟩
    · exact ⟨T, by rw [hans]; exact hs, hsound⟩
    · exact ⟨_, by rw [hans]; exact hs', hsound.puts hnew⟩
  | update _ hs hacyclic ht ih =>
    obtain ⟨T', hs', hsound⟩ := ih
    obtain rfl := hs.unique hs'
    obtain ⟨r, t', s', T', hupdate, hkeeps, hgiven⟩ := updateHeights_given hs hacyclic hsound ht
    exact ⟨T', by rw [hupdate]; exact hkeeps, hgiven.sound⟩

/-- Over one fault-free provider whose heights are sound, they are sound in
    every state that is reached by storing transactions and giving heights.
    In such a state, if there is no circle, giving heights to a transaction
    that is in step with the tables ends, since further steps down would
    change nothing; and the heights that it gives are the distances. -/
theorem heights_are_distances {s₀ : Store} {T₀ : Tables} (hs₀ : s₀.Keeps T₀)
    (hsound₀ : T₀.Sound) (hrun : HeightRun s₀ s) :
    ∃ T, s.Keeps T ∧ T.Sound ∧ (T.Acyclic → ∀ t, T.Loads t.hash t →
      (∀ trunk, load s t.trunk = .ok trunk → ∀ steps, s.totalSize .transaction < steps →
        descend s steps [] trunk = descend s (s.totalSize .transaction + 1) [] trunk) ∧
      ∃ r t' s' T', t.updateHeights s = (r, t', s') ∧ s'.Keeps T' ∧
        T.HeightsGiven t r t' T') := by
  obtain ⟨T, hs, hsound⟩ := hrun.sound hs₀ hsound₀
  refine ⟨T, hs, hsound, fun hacyclic t ht => ⟨?_, updateHeights_given hs hacyclic hsound ht⟩⟩
  intro trunk hload steps hsteps
  obtain ⟨extra, rfl⟩ : ∃ extra, steps = s.totalSize .transaction + 1 + extra :=
    ⟨steps - (s.totalSize .transaction + 1), by omega⟩
  have hsize : (T.table .transaction).size <
      ([] : List Hash).length + (s.totalSize .transaction + 1) := by
    rw [hs.totalSize, List.length_nil]
    omega
  exact descend_settles hs hacyclic (.start ht.trunk) hload hsize extra

/-! ### Zeros -/

/-- Every reference among zeros is null. -/
theorem isNull_trunk_placeholder (h : Hash) : (placeholder h).trunk.isNull = true := by
  have htrits : (placeholder h).trits = List.replicate 8019 0 := rfl
  rw [trunk, fieldHash, htrits, Layout.read_zeros]
  decide

/-- A payload of zeros under a hash that is not null. -/
def zerosAtOne : Transaction :=
  { placeholder (Hash.ofBytes [1]) with facts := .fresh .filled }

theorem isNull_trunk_zerosAtOne : zerosAtOne.trunk.isNull = true :=
  isNull_trunk_placeholder (Hash.ofBytes [1])

theorem loads_zerosAtOne :
    (Tables.putAll .empty zerosAtOne.puts).Loads zerosAtOne.hash zerosAtOne := by
  refine ⟨?_, rfl, legible_placeholder (Hash.ofBytes [1]), Tables.facts_of_empty _ fun tag => ?_⟩
  · rw [table_transaction_puts, OrderedMap.get?_insert_self]
  · rw [table_metadata_puts]
    rfl

theorem eq_of_stored_zerosAtOne {g : Hash} (hg : (Tables.putAll .empty zerosAtOne.puts).Stored g) :
    g = zerosAtOne.hash :=
  ((stored_puts zerosAtOne .empty g).mp hg).resolve_right fun hempty => by cases hempty

/-- The only trunk leads to the null hash, which is not stored. -/
theorem acyclic_zerosAtOne : (Tables.putAll .empty zerosAtOne.puts).Acyclic := by
  have htrunk : ∀ h g, (Tables.putAll .empty zerosAtOne.puts).Trunk h g →
      h.isNull = false ∧ g.isNull = true := by
    intro h g hg
    obtain rfl := eq_of_stored_zerosAtOne hg.stored
    rw [hg.unique loads_zerosAtOne.trunk]
    exact ⟨by decide, isNull_trunk_zerosAtOne⟩
  intro h hcycle
  obtain ⟨g, hfirst, _⟩ := Relation.TransGen.head'_iff.mp hcycle
  obtain ⟨k, _, hlast⟩ := Relation.TransGen.tail'_iff.mp hcycle
  have hnull := (htrunk h g hfirst).1
  rw [(htrunk k h hlast).2] at hnull
  cases hnull

/-- The payload of zeros is stored and gets the height one. -/
theorem heights_are_distances_zeros :
    ∃ s T t, HeightRun ⟨[Provider.memory]⟩ s ∧ s.Keeps T ∧ T.Loads zerosAtOne.hash t ∧
      t.facts.height = 1 := by
  have hs₀ : Store.Keeps ⟨[Provider.memory]⟩ .empty := Store.keeps_fresh "memory"
  have hsound₀ : Tables.Sound .empty := fun h hh => absurd rfl hh
  obtain ⟨s₁, hstore, hs₁⟩ := hs₀.store_new (t := zerosAtOne) (fun hh => by cases hh)
  have hrun : HeightRun ⟨[Provider.memory]⟩ s₁ := by
    have hstart : HeightRun ⟨[Provider.memory]⟩ ⟨[Provider.memory]⟩ := .start
    have hstep := hstart.store zerosAtOne
    rwa [hstore] at hstep
  obtain ⟨T, hs, _, hgives⟩ := heights_are_distances hs₀ hsound₀ hrun
  obtain rfl := hs₁.unique hs
  -- one transaction is stored, and its trunk is null
  obtain ⟨_, r, t', s', T', hupdate, hs', hgiven⟩ :=
    hgives acyclic_zerosAtOne zerosAtOne loads_zerosAtOne
  have hr : r = .ok () := hgiven.succeeds fun g _ _ hg =>
    ⟨zerosAtOne, eq_of_stored_zerosAtOne hg ▸ loads_zerosAtOne⟩
  have hdistance : (Tables.putAll .empty zerosAtOne.puts).Distance zerosAtOne.hash 1 :=
    .above (by decide) loads_zerosAtOne.trunk (.null isNull_trunk_zerosAtOne)
  have hheight := hgiven.reached 1 hdistance hr zerosAtOne.hash 1 zerosAtOne .refl hdistance
    (by omega) loads_zerosAtOne
  have hstep := hrun.update hs acyclic_zerosAtOne loads_zerosAtOne
  rw [hupdate] at hstep
  exact ⟨s', T', _, hstep, hs', hheight, rfl⟩

end Transaction

end TernaryGossip
