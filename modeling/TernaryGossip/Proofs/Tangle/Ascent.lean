import TernaryGossip.Proofs.Tangle.Descent

/-! # The way up the trunks

    If the descent ended at the null hash or at a transaction with a height,
    this height is the distance, and every transaction on the way back gets
    its own.  Otherwise nothing follows, and nothing is written.

    Heights have 64 bits.  A distance that does not fit gives no height, and
    neither do the greater ones above it. -/

namespace TernaryGossip

namespace Transaction

variable {s : Store} {T : Tables} {t u w : Transaction}

/-! ## One height -/

theorem heightAbove_of_isNull (hnull : w.hash.isNull = true) (hzero : w.facts.height = 0)
    (hu : u.hash.isNull = false) : heightAbove w u = some 1 := by
  simp [heightAbove, hnull, hzero, hu]

theorem heightAbove_of_height (hnull : w.hash.isNull = false) (hfilled : w.isFilled = true)
    (hheight : w.facts.height ≠ 0) :
    heightAbove w u = if u.facts.height = 0 then some (w.facts.height + 1) else none := by
  have hpos : 0 < w.facts.height := UInt64.pos_iff_ne_zero.mpr hheight
  simp [heightAbove, hnull, hfilled, hpos]

/-- Nothing follows from a trunk that is not null and has no height. -/
theorem heightAbove_of_zero (hnull : w.hash.isNull = false) (hzero : w.facts.height = 0)
    (u : Transaction) : heightAbove w u = none := by
  simp [heightAbove, hnull, hzero]

/-- Heights have 64 bits. -/
theorem toNat_height_add_one (v : UInt64) :
    (v + 1).toNat = if v.toNat + 1 < 2 ^ 64 then v.toNat + 1 else 0 := by
  have hlt := v.toNat_lt
  rw [UInt64.toNat_add]
  by_cases hfits : v.toNat + 1 < 2 ^ 64
  · rw [if_pos hfits]
    exact Nat.mod_eq_of_lt hfits
  · have hlast : v.toNat + 1 = 2 ^ 64 := by omega
    rw [if_neg hfits]
    exact hlast ▸ Nat.mod_self _

/-- The transaction `u` has the height `v` afterwards: its distance, which is
    one more than that of `w`, if it fits.  It is stored now, or was stored
    before. -/
structure RaisedAbove (s : Store) (T : Tables) (u w : Transaction) (m : Nat) (v : UInt64)
    (s' : Store) (T' : Tables) : Prop where
  distance : T.Distance w.hash m
  value : v.toNat = if m + 1 < 2 ^ 64 then m + 1 else 0
  keeps : s'.Keeps T'
  set : T.HeightSet u.hash v T'
  sound : T'.Sound
  raised : (∃ b, u.raise w s = some (.ok b, { u with facts := u.facts.withHeight v }, s')) ∨
    (u.raise w s = none ∧ u.facts.height ≠ 0 ∧ s' = s ∧ u.facts.withHeight v = u.facts)

section raising

variable (hs : s.Keeps T) (hacyclic : T.Acyclic) (hsound : T.Sound) (hu : T.Loads u.hash u)
  (htrunk : T.Trunk u.hash w.hash)
include hs hacyclic hsound hu htrunk

/-- Above the null hash the height is one. -/
theorem raise_above_null (hnull : w.hash.isNull = true) (hzero : w.facts.height = 0) :
    ∃ s' T', RaisedAbove s T u w 0 1 s' T' := by
  have hdistance : T.Distance w.hash 0 := .null hnull
  have hunull := hacyclic.not_isNull htrunk hdistance
  obtain ⟨b, s', T', hlearn, hs', hset, hsame⟩ := hs.learn_height hu 1
  refine ⟨s', T', hdistance, rfl, hs', hset, ?_, .inl ⟨b, ?_⟩⟩
  · by_cases hh : T.height u.hash = 0
    · refine hsound.heightSet hset hh fun _ => ⟨w.hash, htrunk, ?_⟩
      rw [if_pos hnull]
    · -- a height that was stored before can only have been one
      have hone := hsound.height_of_trunk hacyclic htrunk hdistance hh
      have hv : u.facts.height = 1 := by
        rw [hu.height_eq]
        exact UInt64.toNat_inj.mp hone
      rw [hsame hv]
      exact hsound
  · rw [raise, heightAbove_of_isNull hnull hzero hunull, Option.map_some, hlearn]

/-- Above a trunk with a height the height is one more, unless it is known. -/
theorem raise_above_height (hnull : w.hash.isNull = false) (hw : T.Loads w.hash w)
    (hheight : w.facts.height ≠ 0) :
    ∃ v s' T', RaisedAbove s T u w (T.height w.hash).toNat v s' T' := by
  have hwT : T.height w.hash ≠ 0 := by rwa [← hw.height_eq]
  have hdistance := hsound.distance hacyclic hwT
  have habove := heightAbove_of_height (u := u) hnull (isFilled_of_loads hw) hheight
  by_cases hh : u.facts.height = 0
  · have hzero : T.height u.hash = 0 := by rw [← hu.height_eq, hh]
    have hvalue := toNat_height_add_one (T.height w.hash)
    obtain ⟨b, s', T', hlearn, hs', hset, _⟩ := hs.learn_height hu (T.height w.hash + 1)
    refine ⟨_, s', T', hdistance, hvalue, hs', hset, ?_, .inl ⟨b, ?_⟩⟩
    · refine hsound.heightSet hset hzero fun hv => ⟨w.hash, htrunk, ?_⟩
      rw [if_neg (by simp [hnull])]
      refine ⟨hwT, ?_⟩
      -- a sum that is not zero has not wrapped around
      by_cases hfits : (T.height w.hash).toNat + 1 < 2 ^ 64
      · rw [hvalue, if_pos hfits]
      · rw [if_neg hfits] at hvalue
        exact absurd (UInt64.toNat_inj.mp hvalue) hv
    · rw [raise, habove, if_pos hh, Option.map_some, hw.height_eq, hlearn]
  · -- the transaction has its height already
    have hhT : T.height u.hash ≠ 0 := by rwa [← hu.height_eq]
    have hvalue := hsound.height_of_trunk hacyclic htrunk hdistance hhT
    have hfits := (T.height u.hash).toNat_lt
    obtain ⟨m₀, v, _, hv, hm⟩ := Tables.facts_ok_iff.mp hu.facts
    have hvT := Tables.height_of_readHeight hv
    refine ⟨v, s, T, hdistance, ?_, hs, Tables.heightSet_refl hv, hsound, .inr ⟨?_, hh, rfl, ?_⟩⟩
    · rw [← hvT, hvalue, if_pos (by omega)]
    · rw [raise, habove, if_neg hh]
      rfl
    · rw [hm]
      rfl

/-- From the null hash, or a trunk with a height, the height follows. -/
theorem raise_grounded (hload : load s w.hash = .ok w)
    (hground : w.hash.isNull = true ∨ w.facts.height ≠ 0) :
    ∃ m v s' T', RaisedAbove s T u w m v s' T' := by
  rcases hs.load_ok_iff.mp hload with ⟨hplaceholder, _⟩ | ⟨hnull, hw⟩
  · -- a placeholder has no height, so its hash is null
    have hzero : w.facts.height = 0 := by
      rw [hplaceholder]
      rfl
    have hnull : w.hash.isNull = true := hground.resolve_right (not_not_intro hzero)
    exact ⟨0, 1, raise_above_null hs hacyclic hsound hu htrunk hnull hzero⟩
  · have hheight : w.facts.height ≠ 0 := hground.resolve_left (by simp [hnull])
    exact ⟨_, raise_above_height hs hacyclic hsound hu htrunk hnull hw hheight⟩

end raising

end Transaction

/-! ## The way up -/

/-- Every one of these hashes has its distance as its height, as far as it
    fits, and nothing else has changed. -/
structure Tables.Raised (T : Tables) (hs : List Hash) (T' : Tables) : Prop where
  alike : T.Alike T'
  frame : ∀ key, (∀ h ∈ hs, key ≠ Key.ofFact h 3) →
    (T'.table .transactionMetadata).get? key = (T.table .transactionMetadata).get? key
  sound : T'.Sound
  distances : ∀ h ∈ hs, ∀ n u, T.Distance h n → n < 2 ^ 64 → T.Loads h u →
    T'.Loads h { u with facts := u.facts.withHeight (UInt64.ofNat n) }

namespace Tables.Raised

variable {T T' T'' : Tables} {hs : List Hash} {h : Hash} {v : UInt64}

/-- Distances that do not fit leave everything as it was. -/
theorem of_far (hsound : T.Sound) (hfar : ∀ h ∈ hs, ∀ n, T.Distance h n → 2 ^ 64 ≤ n) :
    T.Raised hs T where
  alike := .refl T
  frame _ _ := rfl
  sound := hsound
  distances h hh n _ hn hfits _ := absurd (hfar h hh n hn) (by omega)

theorem cons (hset : T.HeightSet h v T') (hraised : T'.Raised hs T'') (hnew : h ∉ hs)
    (hv : ∀ n, T.Distance h n → n < 2 ^ 64 → v = UInt64.ofNat n) : T.Raised (h :: hs) T'' where
  alike := hset.alike.trans hraised.alike
  frame key hkey := by
    obtain ⟨hhead, htail⟩ := List.forall_mem_cons.mp hkey
    rw [hraised.frame key htail, hset.frame key hhead]
  sound := hraised.sound
  distances g hg n u hn hfits hu := by
    rcases List.mem_cons.mp hg with rfl | hg
    · -- its height was written first and is not touched afterwards
      have hself := hset.loads_self hu
      rw [hv n hn hfits] at hself
      refine (loads_congr hraised.alike fun tag => hraised.frame _ ?_).mpr hself
      intro k hk heq
      exact hnew ((Key.ofFact_inj.mp heq).1 ▸ hk)
    · have hne : g ≠ h := fun heq => hnew (heq ▸ hg)
      exact hraised.distances g hg n u (hset.alike.distance hn) hfits ((hset.loads_of_ne hne).mpr hu)

end Tables.Raised

/-- A height that was computed from the distance of the trunk. -/
theorem Tables.Trunk.eq_ofNat {T : Tables} {h g : Hash} {m : Nat} {v : UInt64}
    (hacyclic : T.Acyclic) (htrunk : T.Trunk h g) (hg : T.Distance g m)
    (hvalue : v.toNat = if m + 1 < 2 ^ 64 then m + 1 else 0) (n : Nat) (hn : T.Distance h n)
    (hfits : n < 2 ^ 64) : v = UInt64.ofNat n := by
  obtain rfl : n = m + 1 := hn.unique (.above (hacyclic.not_isNull htrunk hg) htrunk hg)
  rw [if_pos hfits] at hvalue
  rw [← hvalue, UInt64.ofNat_toNat]

namespace Transaction

variable {s : Store} {T : Tables} {t w : Transaction} {passed : List Hash}

/-- From a trunk that is not null and has no height, no way leads up. -/
theorem ascend_of_zero {k : Hash} (hs : s.Keeps T) (hnull : w.hash.isNull = false)
    (hzero : w.facts.height = 0) (hd : T.Descent t.hash passed k) :
    ascend t s passed w = (.ok (), t, s) := by
  have hnone : ∀ u : Transaction, u.raise w s = none := by
    intro u
    rw [raise, heightAbove_of_zero hnull hzero]
    rfl
  cases hd with
  | start => simp only [ascend, hnone]
  | pass _ hg hu _ =>
    simp only [ascend, hnone, hs.load_of_loads hg hu]
    split <;> rfl

/-- From the null hash, or a trunk with a height, every transaction on the
    way up gets its height. -/
theorem ascend_grounded (hs : s.Keeps T) (hacyclic : T.Acyclic) (hsound : T.Sound)
    (ht : T.Loads t.hash t) (hd : T.Descent t.hash passed w.hash)
    (hload : load s w.hash = .ok w) (hground : w.hash.isNull = true ∨ w.facts.height ≠ 0) :
    ∃ t' s' T', ascend t s passed w = (.ok (), t', s') ∧ s'.Keeps T' ∧ T'.Loads t.hash t' ∧
      T.Raised (passed ++ [t.hash]) T' := by
  induction passed generalizing s T w with
  | nil =>
    have htrunk : T.Trunk t.hash w.hash := by
      cases hd with
      | start htrunk => exact htrunk
    obtain ⟨m, v, s', T', hdistance, hvalue, hs', hset, hsound', hraise⟩ :=
      raise_grounded hs hacyclic hsound ht htrunk hload hground
    have hv := Tables.Trunk.eq_ofNat hacyclic htrunk hdistance hvalue
    have hraised : T.Raised [t.hash] T' :=
      .cons hset (.of_far hsound' (by simp)) List.not_mem_nil hv
    have ht' := hset.loads_self ht
    rcases hraise with ⟨b, hb⟩ | ⟨hnone, _, rfl, hsame⟩
    · exact ⟨_, s', T', by simp only [ascend, hb]; rfl, hs', ht', hraised⟩
    · rw [hsame] at ht'
      exact ⟨t, s', T', by simp only [ascend, hnone], hs', ht', hraised⟩
  | cons x passed ih =>
    obtain ⟨u, hd', hnull, hu, hzero, htrunk⟩ := hd.cons_inv
    obtain rfl := hu.hash
    have htrunk : T.Trunk u.hash w.hash := htrunk ▸ hu.trunk
    have hnew : u.hash ∉ passed ++ [t.hash] := (List.nodup_cons.mp (hd.nodup hacyclic)).1
    have hne : u.hash ≠ t.hash := by
      intro heq
      exact hnew (heq ▸ by simp)
    obtain ⟨m, v, s', T', hdistance, hvalue, hs', hset, hsound', hraise⟩ :=
      raise_grounded hs hacyclic hsound hu htrunk hload hground
    obtain ⟨b, hb⟩ := hraise.resolve_right fun hnone => hnone.2.1 (by rw [hu.height_eq, hzero])
    have hstep : ascend t s (u.hash :: passed) w =
        ascend t s' passed { u with facts := u.facts.withHeight v } := by
      rw [ascend, if_neg hne]
      simp only [hs.load_of_loads hnull hu, hb]
    have hv := Tables.Trunk.eq_ofNat hacyclic htrunk hdistance hvalue
    have hacyclic' := hset.alike.acyclic hacyclic
    have ht' := (hset.loads_of_ne (Ne.symm hne)).mpr ht
    have hd'' := hd'.heightSet hset fun hmem => hnew (List.mem_append_left _ hmem)
    rw [hstep]
    by_cases hv0 : v = 0
    · -- the distance does not fit, and neither do those above
      have htoo : 2 ^ 64 ≤ m + 1 := by
        rw [hv0] at hvalue
        split at hvalue
        · cases hvalue
        · omega
      have hfar : ∀ h ∈ passed ++ [t.hash], ∀ n, T'.Distance h n → 2 ^ 64 ≤ n := by
        intro h hh n hn
        have hux : T'.Distance u.hash (m + 1) := hset.alike.distance (.above hnull htrunk hdistance)
        exact Nat.le_of_lt (Nat.lt_of_le_of_lt htoo (hd''.distance_lt hacyclic' hux hh hn))
      exact ⟨t, s', T', ascend_of_zero hs' hnull hv0 hd'', hs', ht',
        .cons hset (.of_far hsound' hfar) hnew hv⟩
    · obtain ⟨t', s'', T'', hrun, hs'', ht'', hraised⟩ :=
        ih (w := { u with facts := u.facts.withHeight v }) hs' hacyclic' hsound' ht' hd''
          (hs'.load_of_loads hnull (hset.loads_self hu)) (.inr hv0)
      exact ⟨t', s'', T'', hrun, hs'', ht'', .cons hset hraised hnew hv⟩

end Transaction

end TernaryGossip
