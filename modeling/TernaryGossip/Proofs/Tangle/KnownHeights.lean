import TernaryGossip.Proofs.Tangle.Heights
import TernaryGossip.Proofs.Tangle.Shown

/-! # Heights that are known

    Giving heights to a transaction, whatever heights were stored before,
    keeps every height that is known, with one exception.  Above a trunk
    that is not null only a transaction without a height gets one.  Above
    the null hash, however, it gets the height one in any case: a greater
    height that it had is lost, in memory and in the store.

    The heights need not be sound here, and there may be any number of
    providers; only their reading and writing must not fail. -/

namespace TernaryGossip

/-! ## Known heights -/

/-- Of some tables nothing has changed but metadata, and no height that is
    known. -/
structure Tables.KeepsKnown (T T' : Tables) : Prop where
  alike : T.Alike T'
  known : ∀ h, T.height h ≠ 0 → T'.height h = T.height h

namespace Tables

variable {T T' T'' : Tables} {h : Hash} {v : UInt64}

theorem KeepsKnown.refl (T : Tables) : T.KeepsKnown T := ⟨.refl T, fun _ _ => rfl⟩

theorem KeepsKnown.trans (hT : T.KeepsKnown T') (hT' : T'.KeepsKnown T'') : T.KeepsKnown T'' where
  alike := hT.alike.trans hT'.alike
  known h hh := by
    have hmid := hT.known h hh
    rw [hT'.known h (by rwa [hmid]), hmid]

theorem KeepsKnown.not_lt (hT : T.KeepsKnown T') (g : Hash) : ¬ T'.height g < T.height g := by
  by_cases hg : T.height g = 0
  · rw [hg]
    exact UInt64.not_lt_zero
  · rw [hT.known g hg]
    exact UInt64.lt_irrefl _

/-- A height may be written where none is known. -/
theorem HeightSet.keepsKnown (hset : T.HeightSet h v T') (hzero : T.height h = 0) :
    T.KeepsKnown T' where
  alike := hset.alike
  known g hg := by
    refine hset.height_of_ne ?_
    rintro rfl
    exact hg hzero

end Tables

namespace Transaction

variable {s : Store} {T : Tables} {t u w : Transaction} {h : Hash}

/-! ## One height -/

/-- Both rules by which a height follows from a trunk. -/
theorem heightAbove_eq_some {v : UInt64} (hv : heightAbove w u = some v) :
    (w.hash.isNull = true ∧ u.hash.isNull = false ∧ v = 1) ∨
      (w.isFilled = true ∧ u.facts.height = 0 ∧ v = w.facts.height + 1) := by
  unfold heightAbove at hv
  split at hv
  · next hrule =>
    obtain ⟨hnull, -, hu⟩ := hrule
    exact .inl ⟨hnull, by simpa using hu, (Option.some.inj hv).symm⟩
  · split at hv
    · next hrule =>
      obtain ⟨hfilled, -, hzero⟩ := hrule
      exact .inr ⟨hfilled, hzero, (Option.some.inj hv).symm⟩
    · cases hv

/-- A trunk that is not null gives a height only where none is known. -/
theorem height_eq_zero_of_heightAbove {v : UInt64} (hw : w.hash.isNull = false)
    (hv : heightAbove w u = some v) : u.facts.height = 0 := by
  rcases heightAbove_eq_some hv with ⟨hnull, -⟩ | ⟨-, hzero, -⟩
  · rw [hw] at hnull
    cases hnull
  · exact hzero

/-- No height follows from the trunk, or the one that follows is stored. -/
theorem raise_cases (hs : s.Shows T) (hu : T.Loads u.hash u) (w : Transaction) :
    u.raise w s = none ∨ ∃ b v s' T', heightAbove w u = some v ∧
      u.raise w s = some (.ok b, { u with facts := u.facts.withHeight v }, s') ∧
      s'.Shows T' ∧ T.HeightSet u.hash v T' := by
  rw [raise]
  cases hv : heightAbove w u with
  | none => exact .inl rfl
  | some v =>
    obtain ⟨b, s', T', hlearn, hs', hset⟩ :=
      hs.learn_height fun hsame => hsame ▸ hu.readHeight_eq
    exact .inr ⟨b, v, s', T', rfl, by rw [Option.map_some, hlearn], hs', hset⟩

/-! ## The way up -/

/-- On the way up known heights are kept, unless it begins at the null hash
    and ends at once. -/
theorem ascend_keepsKnown {passed : List Hash} (hs : s.Shows T) (hacyclic : T.Acyclic)
    (ht : T.Loads t.hash t) (hd : T.Descent t.hash passed w.hash)
    (hw : passed = [] → w.hash.isNull = false) :
    ∃ t' s' T', ascend t s passed w = (.ok (), t', s') ∧ s'.Shows T' ∧ T.KeepsKnown T' ∧
      T'.Loads t.hash t' := by
  -- every step up has a new trunk and other tables; after the first one the
  -- trunk was passed, so it is not null
  induction passed generalizing s T w with
  | nil =>
    rcases raise_cases hs ht w with hnone | ⟨b, v, s', T', hv, hsome, hs', hset⟩
    · exact ⟨t, s, T, by simp only [ascend, hnone], hs, .refl T, ht⟩
    · have hzero : T.height t.hash = 0 := by
        rw [← ht.height_eq, height_eq_zero_of_heightAbove (hw rfl) hv]
      exact ⟨_, s', T', by simp only [ascend, hsome]; rfl, hs', hset.keepsKnown hzero,
        hset.loads_self ht⟩
  | cons x passed ih =>
    obtain ⟨u, hd', hnull, hu, hzero, -⟩ := hd.cons_inv
    obtain rfl := hu.hash
    have hnew : u.hash ∉ passed ++ [t.hash] := (List.nodup_cons.mp (hd.nodup hacyclic)).1
    have hne : u.hash ≠ t.hash := by
      intro heq
      exact hnew (heq ▸ by simp)
    have hload := hs.gets.load_of_loads hnull hu
    rcases raise_cases hs hu w with hnone | ⟨b, v, s', T', -, hsome, hs', hset⟩
    · exact ⟨t, s, T, by simp only [ascend, if_neg hne, hload, hnone], hs, .refl T, ht⟩
    · -- what was passed had no height, and is not null
      have hkeep := hset.keepsKnown hzero
      have hd'' := hd'.heightSet hset fun hmem => hnew (List.mem_append_left _ hmem)
      have ht' := (hset.loads_of_ne (Ne.symm hne)).mpr ht
      obtain ⟨t', s'', T'', hrun, hs'', hkeep', ht''⟩ :=
        ih (w := { u with facts := u.facts.withHeight v }) hs' (hset.alike.acyclic hacyclic) ht'
          hd'' fun _ => hnull
      have hstep : ascend t s (u.hash :: passed) w =
          ascend t s' passed { u with facts := u.facts.withHeight v } := by
        simp only [ascend, if_neg hne, hload, hsome]
      exact ⟨t', s'', T'', by rw [hstep, hrun], hs'', hkeep.trans hkeep', ht''⟩

/-! ## All of it -/

theorem load_of_isNull (s : Store) (hh : h.isNull = true) : load s h = .ok (placeholder h) :=
  if_pos hh

theorem not_passable_of_isNull (hw : w.hash.isNull = true) : ¬ w.Passable := by
  intro hpass
  have hnull := hpass.2.2
  rw [hw] at hnull
  cases hnull

/-- Where the trunk is null, the way down ends there. -/
theorem updateHeights_of_isNull_trunk (t : Transaction) (s : Store)
    (htrunk : t.trunk.isNull = true) :
    t.updateHeights s = ascend t s [] (placeholder t.trunk) := by
  have hstop : ¬ (placeholder t.trunk).Passable := not_passable_of_isNull htrunk
  rw [updateHeights, load_of_isNull s htrunk]
  simp only [descend_of_not_passable _ _ hstop]

/-- Above the null hash, giving heights is learning the height one. -/
theorem updateHeights_above_null (t : Transaction) (s : Store) (ht : t.hash.isNull = false)
    (htrunk : t.trunk.isNull = true) :
    t.updateHeights s =
      ((t.learn s (.height 1)).1.map fun _ => (), (t.learn s (.height 1)).2) := by
  have hraise : t.raise (placeholder t.trunk) s = some (t.learn s (.height 1)) := by
    rw [raise, heightAbove_of_isNull htrunk rfl ht, Option.map_some]
  rw [updateHeights_of_isNull_trunk t s htrunk, ascend, hraise]

/-- The null hash gets no height. -/
theorem updateHeights_null (s : Store) (hh : h.isNull = true) :
    (placeholder h).updateHeights s = (.ok (), placeholder h, s) := by
  have htrunk := isNull_trunk_placeholder h
  have hhash : (placeholder h).hash = h := rfl
  have hnone : (placeholder h).raise (placeholder (placeholder h).trunk) s = none := by
    have hfilled := isFilled_placeholder (placeholder h).trunk
    rw [raise, heightAbove, if_neg (by simp [hhash, hh]), if_neg (by simp [hfilled])]
    rfl
  rw [updateHeights_of_isNull_trunk _ s htrunk, ascend, hnone]

/-- What is loaded learns a height by writing it. -/
theorem learn_height_of_load {v : UInt64} (hs : s.Shows T) (hload : load s h = .ok t)
    (hv : v ≠ 0) :
    ∃ b s' T', t.learn s (.height v) = (.ok b, { t with facts := t.facts.withHeight v }, s') ∧
      s'.Shows T' ∧ T.HeightSet h v T' := by
  have hhash : t.hash = h := hash_of_load hs.gets hload
  rw [← hhash]
  refine hs.learn_height fun hsame => ?_
  rcases hs.gets.load_ok_iff.mp hload with ⟨rfl, -⟩ | ⟨-, ht⟩
  · -- a placeholder has no height
    exact absurd hsame.symm hv
  · rw [hhash, ht.readHeight_eq, hsame]

/-- Unless the trunk is null, every known height is kept. -/
theorem updateHeights_keepsKnown (hs : s.Shows T) (hacyclic : T.Acyclic) (ht : T.Loads t.hash t)
    (htrunk : t.trunk.isNull = false) :
    ∃ r t' s' T', t.updateHeights s = (r, t', s') ∧ s'.Shows T' ∧ T.KeepsKnown T' ∧
      T'.Loads t.hash t' := by
  cases hload : load s t.trunk with
  | error e => exact ⟨.error e, t, s, T, by rw [updateHeights, hload], hs, .refl T, ht⟩
  | ok trunk =>
    cases hrun : descend s (s.totalSize .transaction + 1) [] trunk with
    | error e =>
      have hupdate : t.updateHeights s = (.error e, t, s) := by
        rw [updateHeights, hload]
        simp only [hrun]
      exact ⟨.error e, t, s, T, hupdate, hs, .refl T, ht⟩
    | ok r =>
      obtain ⟨passed, bottom⟩ := r
      obtain ⟨hd, -, -⟩ := descent_of_descend hs.gets (.start ht.trunk) hload hrun
      have hbottom : passed = [] → bottom.hash.isNull = false := by
        intro hpassed
        rw [hpassed] at hd
        cases hd with
        | start hfirst => rw [hfirst.unique ht.trunk, htrunk]
      obtain ⟨t', s', T', hascend, hs', hkeep, ht'⟩ := ascend_keepsKnown hs hacyclic ht hd hbottom
      refine ⟨.ok (), t', s', T', ?_, hs', hkeep, ht'⟩
      rw [updateHeights, hload]
      simp only [hrun, hascend]

/-! ## Which heights fall -/

/-- A transaction `t`, loaded of a hash from a store `s`, was given heights,
    which left it as `t'` and the store as `s'`. -/
structure HeightsFall (s : Store) (h : Hash) (t : Transaction) (s' : Store) (t' : Transaction) :
    Prop where
  /-- A stored height falls exactly if it is that of this transaction, the
  trunk is null, and the height was greater than one. -/
  stored : ∀ g, s'.overlay.height g < s.overlay.height g ↔
    g = h ∧ h.isNull = false ∧ t.trunk.isNull = true ∧ 1 < s.overlay.height h
  /-- So does the height in memory. -/
  memory : t'.facts.height < t.facts.height ↔
    h.isNull = false ∧ t.trunk.isNull = true ∧ 1 < t.facts.height
  /-- Both are one then. -/
  one : h.isNull = false → t.trunk.isNull = true →
    s'.overlay.height h = 1 ∧ t'.facts.height = 1
  /-- No other known height changes. -/
  others : ∀ g, g ≠ h → s.overlay.height g ≠ 0 → s'.overlay.height g = s.overlay.height g

namespace HeightsFall

variable {s' : Store} {T' : Tables} {t' : Transaction}

/-- Unless the trunk of a transaction is null, none falls. -/
theorem of_keepsKnown (hs' : s'.Shows T') (hkeep : s.overlay.KeepsKnown T')
    (hmemory : ¬ t'.facts.height < t.facts.height)
    (hnot : ¬ (h.isNull = false ∧ t.trunk.isNull = true)) : HeightsFall s h t s' t' where
  stored g := by
    rw [hs'.height_overlay]
    constructor
    · exact fun hlt => absurd hlt (hkeep.not_lt g)
    · intro hfall
      obtain ⟨-, hh, htrunk, -⟩ := hfall
      exact absurd ⟨hh, htrunk⟩ hnot
  memory := by
    constructor
    · exact fun hlt => absurd hlt hmemory
    · intro hfall
      obtain ⟨hh, htrunk, -⟩ := hfall
      exact absurd ⟨hh, htrunk⟩ hnot
  one hh htrunk := absurd ⟨hh, htrunk⟩ hnot
  others g _ hg := by rw [hs'.height_overlay, hkeep.known g hg]

/-- Above the null hash the height is one, whatever it was. -/
theorem of_heightSet (hs' : s'.Shows T') (hset : s.overlay.HeightSet h 1 T')
    (hh : h.isNull = false) (htrunk : t.trunk.isNull = true) :
    HeightsFall s h t s' { t with facts := t.facts.withHeight 1 } where
  stored g := by
    rw [hs'.height_overlay]
    by_cases hg : g = h
    · subst hg
      simp [hset.height_self, hh, htrunk]
    · simp [hset.height_of_ne hg, hg]
  memory := by simp [hh, htrunk, Metadata.withHeight]
  one _ _ := by
    rw [hs'.height_overlay]
    exact ⟨hset.height_self, rfl⟩
  others g hg _ := by rw [hs'.height_overlay, hset.height_of_ne hg]

end HeightsFall

/-- Over any number of fault-free providers, whatever heights are stored, if
    there is no circle, giving heights to what was loaded lowers a height
    exactly if it is that of this transaction, its trunk is null and its
    height was greater than one. -/
theorem heights_fall_iff (hs : s.FaultFree) (hacyclic : s.overlay.Acyclic)
    (hload : load s h = .ok t) :
    ∃ r t' s', t.updateHeights s = (r, t', s') ∧ s'.FaultFree ∧ HeightsFall s h t s' t' := by
  have hshows := hs.shows_overlay
  have hhash : t.hash = h := hash_of_load hshows.gets hload
  by_cases hh : h.isNull = true
  · -- the null hash stays as it is
    have hplaceholder := load_of_isNull s hh
    obtain rfl : t = placeholder h := Except.ok.inj (hload.symm.trans hplaceholder)
    refine ⟨_, _, s, updateHeights_null s hh, hs, ?_⟩
    exact .of_keepsKnown hshows (.refl _) (UInt64.lt_irrefl _) (by simp [hh])
  rw [Bool.not_eq_true] at hh
  by_cases htrunk : t.trunk.isNull = true
  · obtain ⟨b, s', T', hlearn, hs', hset⟩ :=
      learn_height_of_load hshows hload (v := 1) (by decide)
    have hupdate := updateHeights_above_null t s (by rw [hhash, hh]) htrunk
    rw [hlearn] at hupdate
    exact ⟨_, _, s', hupdate, hs'.faultFree, .of_heightSet hs' hset hh htrunk⟩
  · -- a placeholder has a null trunk, so this is what is stored
    rw [Bool.not_eq_true] at htrunk
    have ht : s.overlay.Loads t.hash t := by
      rcases hshows.gets.load_ok_iff.mp hload with ⟨rfl, -⟩ | ⟨-, ht⟩
      · rw [isNull_trunk_placeholder] at htrunk
        cases htrunk
      · rwa [ht.hash]
    obtain ⟨r, t', s', T', hupdate, hs', hkeep, ht'⟩ :=
      updateHeights_keepsKnown hshows hacyclic ht htrunk
    have hmemory := hkeep.not_lt t.hash
    rw [← ht.height_eq, ← ht'.height_eq] at hmemory
    exact ⟨r, t', s', hupdate, hs'.faultFree, .of_keepsKnown hs' hkeep hmemory (by simp [htrunk])⟩

/-! ### A greater height above the null hash -/

/-- The payload of zeros and the height ten. -/
def zerosAtTen : Transaction :=
  { zerosAtOne with facts := zerosAtOne.facts.withHeight 10 }

/-- The payload of zeros is stored, and its height. -/
def tenAtOne : Tables := (Tables.putAll .empty zerosAtOne.puts).putFact zerosAtOne.hash (.height 10)

/-- A provider in memory with them. -/
def heightened : Store := ⟨[{ Provider.memory with tables := tenAtOne }]⟩

theorem shows_heightened : heightened.Shows tenAtOne :=
  Store.Keeps.shows ⟨_, rfl, ⟨fun _ _ => rfl, rfl⟩, rfl⟩

theorem loads_tenAtOne : tenAtOne.Loads zerosAtOne.hash zerosAtTen :=
  loads_zerosAtOne.putFact trivial

theorem load_heightened : load heightened zerosAtOne.hash = .ok zerosAtTen :=
  shows_heightened.gets.load_of_loads (by decide) loads_tenAtOne

theorem acyclic_heightened : heightened.overlay.Acyclic := by
  have hten : tenAtOne.Acyclic := (Tables.alike_putFact _ _ _).acyclic acyclic_zerosAtOne
  exact Tables.Alike.acyclic (fun part _ => shows_heightened.table_overlay part) hten

/-- The height ten is stored and loaded, and becomes one. -/
theorem heights_fall_iff_heightened :
    heightened.FaultFree ∧ heightened.overlay.Acyclic ∧
      load heightened zerosAtOne.hash = .ok zerosAtTen ∧ zerosAtTen.facts.height = 10 ∧
      ∃ r t' s', zerosAtTen.updateHeights heightened = (r, t', s') ∧
        s'.overlay.height zerosAtOne.hash = 1 ∧ t'.facts.height = 1 := by
  have hs := shows_heightened.faultFree
  obtain ⟨r, t', s', hupdate, -, hfall⟩ :=
    heights_fall_iff hs acyclic_heightened load_heightened
  obtain ⟨hstored, hmemory⟩ := hfall.one (by decide) isNull_trunk_zerosAtOne
  exact ⟨hs, acyclic_heightened, load_heightened, rfl, r, t', s', hupdate, hstored, hmemory⟩

/-- Giving heights lowers none, whatever was stored. -/
def NeverFall : Prop :=
  ∀ s h t, s.FaultFree → s.overlay.Acyclic → load s h = .ok t →
    (∀ g, s.overlay.height g ≤ (t.updateHeights s).2.2.overlay.height g) ∧
      t.facts.height ≤ (t.updateHeights s).2.1.facts.height

theorem not_neverFall : ¬ NeverFall := by
  intro hnever
  obtain ⟨-, hle⟩ :=
    hnever heightened _ _ shows_heightened.faultFree acyclic_heightened load_heightened
  obtain ⟨b, s', T', hlearn, -, -⟩ :=
    learn_height_of_load shows_heightened load_heightened (v := 1) (by decide)
  rw [updateHeights_above_null zerosAtTen heightened (by decide) isNull_trunk_zerosAtOne,
    hlearn] at hle
  have hten : (10 : UInt64) ≤ 1 := hle
  exact absurd hten (by decide)

end Transaction

end TernaryGossip
