import TernaryGossip.Proofs.Tangle.KnownHeights

/-! # Heights of payloads that are missing

    A hash without a payload is loaded as a placeholder, and the trunk that
    is read from its zeros is null.  So giving heights treats it as the end
    of a chain: it gets the height one, which is written, unless the hash
    itself is null.

    Should the payload arrive later, it is loaded with this height.  The
    height is right then only if its trunk is null, too. -/

namespace TernaryGossip.Transaction

variable {s : Store} {T : Tables} {t : Transaction} {h : Hash}

/-- The change that writes the height of a hash. -/
def heightChange (h : Hash) (v : UInt64) : Change :=
  .save .transactionMetadata (Key.ofFact h 3) (Fact.height v).encode

/-- A placeholder that is not null learns the height one. -/
theorem updateHeights_placeholder (hs : s.FaultFree) (hh : h.isNull = false) :
    (placeholder h).updateHeights s =
      (.ok (), { placeholder h with facts := (placeholder h).facts.withHeight 1 },
        s.changeAll [heightChange h 1]) := by
  have hknows : (placeholder h).facts.knows (.height 1) = false := by
    refine beq_eq_false_iff_ne.mpr fun hsame => ?_
    have hzero : (1 : UInt64) = 0 := congrArg Metadata.height hsame
    exact absurd hzero (by decide)
  have hlearning : (placeholder h).learning (.height 1) = [heightChange h 1] := by
    rw [learning, if_neg (by simp [hknows])]
    rfl
  obtain ⟨b, hlearn⟩ := hs.learn (placeholder h) (.height 1)
  rw [updateHeights_above_null _ s hh (isNull_trunk_placeholder h), hlearn, hlearning]
  rfl

/-- A payload that arrives is loaded with what was known of its hash before. -/
theorem load_arrived (hs : s.Shows T) (hnew : ¬ T.Stored h) (hh : h.isNull = false)
    {m : Metadata} (hfacts : T.facts h = .ok m) {ts : List Transaction}
    (hfirst : firstOf ts h = some t) (hlegible : t.Legible) :
    (storeAll s ts).overlay.Loads h { t with facts := m } ∧
      load (storeAll s ts) h = .ok { t with facts := m } := by
  obtain ⟨T', hs', hmetadata, hpayload⟩ := hs.storeAll ts
  have hhash : t.hash = h := hash_of_firstOf hfirst
  have hloads : T'.Loads h { t with facts := m } := by
    refine ⟨?_, hhash, hlegible, ?_⟩
    · rw [hpayload, Tables.get?_of_not_stored hnew, hfirst]
      rfl
    · rw [← hfacts]
      simp only [Tables.facts, Tables.found, hmetadata]
  exact ⟨hs'.loads_overlay.mpr hloads, hs'.gets.load_of_loads hh hloads⟩

/-- The height one is that of the transactions above the null hash. -/
theorem distance_one_iff (ht : T.Loads h t) (hh : h.isNull = false) :
    T.Distance h 1 ↔ t.trunk.isNull = true := by
  constructor
  · intro hone
    cases hone with
    | above _ htrunk hzero =>
      cases hzero with
      | null hnull =>
        rw [ht.trunk.unique htrunk]
        exact hnull
  · exact fun hnull => .above hh ht.trunk (.null hnull)

/-- Over any number of fault-free providers, a hash whose payload is not
    stored is loaded as a placeholder, and giving it heights changes nothing
    if the hash is null.  If it is not, the placeholder gets the height one,
    and this is written.  Whatever is stored then, the first payload of this
    hash is loaded with the height one, which is its distance exactly if its
    trunk is null. -/
theorem unknown_gets_height_one (hs : s.FaultFree) (hnew : ¬ s.Stored h) :
    load s h = .ok (placeholder h) ∧
      ∃ t' s', (placeholder h).updateHeights s = (.ok (), t', s') ∧
        (h.isNull = true → t' = placeholder h ∧ s' = s) ∧
        (h.isNull = false → t'.facts.height = 1 ∧ s' = s.changeAll [heightChange h 1] ∧
          ∀ m, s.overlay.facts h = .ok m → ∀ ts t, firstOf ts h = some t → t.Legible →
            ∃ u, load (storeAll s' ts) h = .ok u ∧ u.payload = t.payload ∧ u.facts.height = 1 ∧
              ((storeAll s' ts).overlay.Distance h 1 ↔ t.trunk.isNull = true)) := by
  have hshows := hs.shows_overlay
  rw [hshows.stored_iff] at hnew
  refine ⟨hshows.gets.load_missing hnew, ?_⟩
  by_cases hh : h.isNull = true
  · refine ⟨_, _, updateHeights_null s hh, fun _ => ⟨rfl, rfl⟩, fun hnot => ?_⟩
    rw [hh] at hnot
    cases hnot
  rw [Bool.not_eq_true] at hh
  refine ⟨_, _, updateHeights_placeholder hs hh, fun hnull => ?_, fun _ => ⟨rfl, rfl, ?_⟩⟩
  · rw [hh] at hnull
    cases hnull
  · intro m hfacts ts t hfirst hlegible
    have hs' : (s.changeAll [heightChange h 1]).Shows (s.overlay.putFact h (.height 1)) :=
      hshows.changeAll [heightChange h 1]
    have hnew' : ¬ (s.overlay.putFact h (.height 1)).Stored h := by
      rwa [(s.overlay.alike_putFact h (.height 1)).stored_iff]
    have hfacts' := Tables.facts_putFact (f := .height 1) trivial hfacts
    obtain ⟨hloads, hload⟩ := load_arrived hs' hnew' hh hfacts' hfirst hlegible
    have hone := distance_one_iff hloads hh
    exact ⟨_, hload, rfl, rfl, hone⟩

/-! ### A payload of ones -/

/-- A payload of ones under a hash that is not null. -/
def onesAtOne : Transaction :=
  { ofTrits (List.replicate 8019 1) with hash := Hash.ofBytes [1] }

theorem legible_onesAtOne : onesAtOne.Legible := by
  have hbalanced : Trits.Balanced (List.replicate 8019 1) := by
    intro x hx
    rw [List.eq_of_mem_replicate hx]
    decide
  exact (legible_ofTrits hbalanced).rename (Hash.ofBytes [1])

theorem isNull_trunk_onesAtOne : onesAtOne.trunk.isNull = false := by
  have hfill : fill (List.replicate 8019 1) = List.replicate 8019 1 := by
    rw [fill, List.length_replicate, Nat.sub_self, List.replicate_zero, List.append_nil,
      List.take_replicate, Nat.min_self]
  have htrits : onesAtOne.trits = List.replicate 8019 1 := hfill
  rw [trunk, fieldHash, htrits, Layout.Field.read, List.drop_replicate, List.take_replicate]
  decide

/-- Nothing is known at first of any hash. -/
theorem facts_memory (h : Hash) :
    (Store.overlay ⟨[Provider.memory]⟩).facts h = .ok (.fresh .filled) := by
  have hempty : (Store.overlay ⟨[Provider.memory]⟩).table .transactionMetadata = .empty :=
    (Store.keeps_fresh "memory").shows.table_overlay _
  refine Tables.facts_of_empty h fun tag => ?_
  rw [hempty, OrderedMap.get?_empty]

/-- The payload of ones arrives and has the height one, although its trunk
    is not null. -/
theorem unknown_gets_height_one_onesArrive :
    Store.FaultFree ⟨[Provider.memory]⟩ ∧
      ¬ Store.Stored ⟨[Provider.memory]⟩ (Hash.ofBytes [1]) ∧
      ∃ t' s' u, (placeholder (Hash.ofBytes [1])).updateHeights ⟨[Provider.memory]⟩ =
          (.ok (), t', s') ∧
        load (storeAll s' [onesAtOne]) (Hash.ofBytes [1]) = .ok u ∧
        u.payload = onesAtOne.payload ∧ u.facts.height = 1 ∧
        ¬ (storeAll s' [onesAtOne]).overlay.Distance (Hash.ofBytes [1]) 1 := by
  have hs := (Store.keeps_fresh "memory").faultFree
  have hnew : ¬ Store.Stored ⟨[Provider.memory]⟩ (Hash.ofBytes [1]) := by decide
  have hfirst : firstOf [onesAtOne] (Hash.ofBytes [1]) = some onesAtOne := by
    have hhash : onesAtOne.hash = Hash.ofBytes [1] := rfl
    rw [firstOf, List.find?_singleton, hhash, if_pos (beq_self_eq_true _)]
  obtain ⟨-, t', s', hupdate, -, hgiven⟩ := unknown_gets_height_one hs hnew
  obtain ⟨-, -, harrives⟩ := hgiven (by decide)
  obtain ⟨u, hload, hpayload, hheight, hone⟩ :=
    harrives _ (facts_memory _) _ _ hfirst legible_onesAtOne
  refine ⟨hs, hnew, t', s', u, hupdate, hload, hpayload, hheight, ?_⟩
  rw [hone, isNull_trunk_onesAtOne]
  exact Bool.false_ne_true

/-- A placeholder stays at the height zero. -/
def UnknownStaysZero : Prop :=
  ∀ s h t, s.FaultFree → ¬ s.Stored h → load s h = .ok t →
    (t.updateHeights s).2.1.facts.height = 0

theorem not_unknownStaysZero : ¬ UnknownStaysZero := by
  intro hstays
  have hs := (Store.keeps_fresh "memory").faultFree
  have hload : load ⟨[Provider.memory]⟩ (Hash.ofBytes [1]) = .ok (placeholder (Hash.ofBytes [1])) :=
    (Store.keeps_fresh "memory").gets.load_missing fun hstored => by cases hstored
  have hzero := hstays _ _ _ hs (by decide) hload
  rw [updateHeights_placeholder hs (by decide)] at hzero
  have hone : (1 : UInt64) = 0 := hzero
  exact absurd hone (by decide)

end TernaryGossip.Transaction
