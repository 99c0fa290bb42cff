import TernaryGossip.Proofs.Transaction.Fields
import TernaryGossip.Proofs.Transaction.Vouched
import TernaryGossip.Proofs.Trit.Places

/-! # The verdict on a payload

    What is accepted can be told from the bytes, without decoding them:
    there are 1604, each is a packed group, the places of the amount that
    have to be zero are, and the hash of the places ends in as many zeros as
    are required.  `Judged` lists the verdicts in the order of the checks,
    each under the condition that the checks before it have passed, and the
    verdict of `validate` is the one that is listed.

    The check of the amount against the supply never fails.  The amount has
    33 trits, and the supply is the greatest number that they can hold. -/

namespace TernaryGossip

/-! ## What the bytes say -/

namespace Transaction

/-- The hash of a payload. -/
def hashOf (b : Bytes) : Hash := Hash.identity (Packed.tritsAt 8019 b)

/-- The amount uses no places above the first 33. -/
def AmountFits (b : Bytes) : Prop :=
  ∀ k, 33 ≤ k → k < 81 → Packed.tritAt b (Layout.value.offset + k) = 0

/-- A payload of packed groups is decoded place by place. -/
theorem decode_of_valid {b : Bytes} (hlen : b.length = 1604) (hvalid : Packed.Valid b) :
    ∃ t, decode b = .ok t ∧ t.hash = hashOf b ∧ t.payload = b ∧
      t.trits = Packed.tritsAt 8019 b ∧ t.facts = .fresh .filled := by
  obtain ⟨t, hdecode⟩ := exists_decode_iff.mpr ⟨hlen, hvalid⟩
  obtain ⟨hstored, hhash⟩ := decode_ok_iff.mp hdecode
  obtain ⟨-, hpayload, hfacts, hlegible⟩ := ofStored_ok_iff.mp hstored
  have htrits : t.trits = Packed.tritsAt 8019 b := by
    rw [Legible, hpayload, Packed.unpack_eq_tritsAt (n := 8019) (by rw [hlen]) hvalid] at hlegible
    exact (Except.ok.inj hlegible).symm
  exact ⟨t, hdecode, by rw [hhash, htrits, hashOf], hpayload, htrits, hfacts⟩

theorem readPayload_of_length_ne {b : Bytes} (h : b.length ≠ 1604) :
    readPayload b = .error (.invalidLength 1604 b.length) := by
  rw [readPayload, dif_neg h]

theorem readPayload_of_unpack_error {b : Bytes} (hlen : b.length = 1604) {e : TritError}
    (h : Packed.unpack 8019 b = .error e) : readPayload b = .error (.ternary e) := by
  unfold readPayload
  rw [dif_pos hlen]
  split
  · next hread =>
    rw [h] at hread
    cases hread
  · next hread =>
    rw [h] at hread
    cases hread
    rfl

theorem decode_of_readPayload_error {b : Bytes} {e : FormatError} (h : readPayload b = .error e) :
    decode b = .error e := by
  rw [decode, h]

theorem unusedValueIsZero_iff {t : Transaction} {b : Bytes}
    (htrits : t.trits = Packed.tritsAt 8019 b) : t.unusedValueIsZero = true ↔ AmountFits b := by
  -- the places above the first 33, counted from the first of all
  have hplace : ∀ i < 48, (Layout.unusedValue.read t.trits)[i]? =
      some (Packed.tritAt b (Layout.value.offset + (33 + i))) := by
    intro i hi
    have hsum : Layout.unusedValue.offset + i = Layout.value.offset + (33 + i) := by
      show 6837 + i = 6804 + (33 + i)
      omega
    have hlt : Layout.value.offset + (33 + i) < 8019 := by
      show 6804 + (33 + i) < 8019
      omega
    rw [Layout.Field.getElem?_read, if_pos (show i < Layout.unusedValue.size from hi), htrits, hsum,
      Packed.getElem?_tritsAt b hlt]
  have hlength : (Layout.unusedValue.read t.trits).length = 48 := by
    rw [Layout.Field.length_read, t.length_trits]
    rfl
  rw [unusedValueIsZero, List.all_eq_true]
  constructor
  · intro hall k hlow hhigh
    obtain ⟨i, rfl⟩ := Nat.exists_eq_add_of_le hlow
    exact eq_of_beq (hall _ (List.mem_of_getElem? (hplace i (by omega))))
  · intro hfits x hx
    obtain ⟨i, hi, rfl⟩ := List.getElem_of_mem hx
    have hi' : i < 48 := hlength ▸ hi
    have hget := hplace i hi'
    rw [List.getElem?_eq_getElem hi] at hget
    rw [Option.some.inj hget, hfits (33 + i) (by omega) (by omega)]
    rfl

/-! ## The amount -/

/-- However many trits of the amount are added up, beginning with the
    highest, the sum has not more digits than the supply. -/
theorem Legible.natAbs_value_drop_le {t : Transaction} (h : t.Legible) (k : Nat) :
    (Balanced.value ((Layout.usableValue.read t.trits).drop k)).natAbs ≤ (3 ^ 33 - 1) / 2 := by
  have hread := Layout.Field.balanced_read h.balanced Layout.usableValue
  have hlt := Balanced.natAbs_value_lt fun x hx => hread x (List.mem_of_mem_drop hx (i := k))
  have hlen : ((Layout.usableValue.read t.trits).drop k).length ≤ 33 := by
    rw [List.length_drop, Layout.Field.length_read]
    exact (Nat.sub_le _ _).trans (Nat.min_le_left _ _)
  have hpow : 3 ^ ((Layout.usableValue.read t.trits).drop k).length ≤ 3 ^ 33 :=
    Nat.pow_le_pow_right (by decide) hlen
  omega

theorem Legible.natAbs_value_le {t : Transaction} (h : t.Legible) :
    t.value.natAbs ≤ (3 ^ 33 - 1) / 2 := h.natAbs_value_drop_le 0

theorem supply_eq : Layout.supply.toNat = (3 ^ 33 - 1) / 2 := by decide

end Transaction

/-! ## The verdicts in their order -/

open Transaction in
/-- The verdicts on a payload when a weight is required. -/
inductive Judged (minWeight : Nat) (b : Bytes) : Except ValidationError Transaction → Prop
  /-- The number of bytes is wrong. -/
  | length (h : b.length ≠ 1604) :
      Judged minWeight b (.error (.format (.invalidLength 1604 b.length)))
  /-- The number is right, but one of them is no packed group. -/
  | byte (hlen : b.length = 1604) {x : UInt8} {position : Nat}
      (h : Packed.FirstBad b x position) :
      Judged minWeight b
        (.error (.format (.ternary (.invalidByte (SignedByte.value x) position))))
  /-- They decode, but the amount uses places that have to be zero. -/
  | unused (hlen : b.length = 1604) (hvalid : Packed.Valid b) (h : ¬ AmountFits b) :
      Judged minWeight b (.error .unusedValueTrits)
  /-- The amount fits, but the hash ends in too few zeros. -/
  | weight (hlen : b.length = 1604) (hvalid : Packed.Valid b) (hfits : AmountFits b)
      {actual : Nat} (hends : (hashOf b).EndsInZeros actual)
      (hmost : ¬ (hashOf b).EndsInZeros (actual + 1)) (hfew : actual < minWeight) :
      Judged minWeight b (.error (.insufficientWeight minWeight actual))
  /-- Nothing is wrong. -/
  | accepted (hlen : b.length = 1604) (hvalid : Packed.Valid b) (hfits : AmountFits b)
      (hends : (hashOf b).EndsInZeros minWeight) {t : Transaction} (hhash : t.hash = hashOf b)
      (hpayload : t.payload = b) (htrits : t.trits = Packed.tritsAt 8019 b)
      (hfacts : t.facts = .fresh .filled) : Judged minWeight b (.ok t)

section judging
variable {minWeight : Nat} {b : Bytes}

/-- There is a verdict on every payload. -/
theorem exists_judged (minWeight : Nat) (b : Bytes) : ∃ r, Judged minWeight b r := by
  -- the checks in their order, each failing before the next one is made
  by_cases hlen : b.length = 1604
  · by_cases hvalid : Packed.Valid b
    · by_cases hfits : Transaction.AmountFits b
      · have hends := Hash.endsInZeros_iff (Hash.valid_identity (Packed.tritsAt 8019 b))
        by_cases hweight : minWeight ≤ (Transaction.hashOf b).weight
        · obtain ⟨t, -, hhash, hpayload, htrits, hfacts⟩ :=
            Transaction.decode_of_valid hlen hvalid
          exact ⟨_, .accepted hlen hvalid hfits ((hends _).mpr hweight) hhash hpayload htrits
            hfacts⟩
        · exact ⟨_, .weight hlen hvalid hfits ((hends _).mpr (Nat.le_refl _))
            (fun h => Nat.not_succ_le_self _ ((hends _).mp h)) (Nat.lt_of_not_le hweight)⟩
      · exact ⟨_, .unused hlen hvalid hfits⟩
    · obtain ⟨x, i, hfirst⟩ := Packed.exists_firstBad hvalid
      exact ⟨_, .byte hlen hfirst⟩
  · exact ⟨_, .length hlen⟩

/-- A verdict that is listed is the one that `validate` gives. -/
theorem Judged.validate_eq {r : Except ValidationError Transaction} (h : Judged minWeight b r) :
    validate minWeight b = r := by
  cases h with
  | length h =>
    rw [validate, Transaction.decode_of_readPayload_error
      (Transaction.readPayload_of_length_ne h)]
  | byte hlen h =>
    have hread := Packed.unpack_of_firstBad (n := 8019) (by rw [hlen]) h
    rw [validate, Transaction.decode_of_readPayload_error
      (Transaction.readPayload_of_unpack_error hlen hread)]
  | unused hlen hvalid h =>
    obtain ⟨t, hdecode, -, -, htrits, -⟩ := Transaction.decode_of_valid hlen hvalid
    have hunused : t.unusedValueIsZero = false := by
      rw [Bool.eq_false_iff, ne_eq, Transaction.unusedValueIsZero_iff htrits]
      exact h
    simp only [validate, hdecode, hunused]
    rfl
  | @weight hlen hvalid hfits actual hends hmost hfew =>
    obtain ⟨t, hdecode, hhash, -, htrits, -⟩ := Transaction.decode_of_valid hlen hvalid
    have hunused : t.unusedValueIsZero = true := (Transaction.unusedValueIsZero_iff htrits).mpr hfits
    have hsupply : ¬ t.value.natAbs > Layout.supply.toNat := by
      rw [Transaction.supply_eq]
      exact Nat.not_lt.mpr (Transaction.legible_of_decode hdecode).natAbs_value_le
    have hweight : t.weight = actual := by
      rw [Transaction.weight, hhash]
      exact Hash.weight_eq_of_endsInZeros (Hash.valid_identity _) hends hmost
    simp only [validate, hdecode, hunused, if_neg hsupply, hweight, if_pos hfew]
    rfl
  | @accepted hlen hvalid hfits hends t hhash hpayload htrits hfacts =>
    have hlegible : t.Legible := by
      rw [Transaction.Legible, hpayload, htrits]
      exact Packed.unpack_eq_tritsAt (by rw [hlen]) hvalid
    refine validate_ok_iff.mpr ⟨?_, (Transaction.unusedValueIsZero_iff htrits).mpr hfits, ?_, ?_⟩
    · exact Transaction.decode_ok_iff.mpr
        ⟨Transaction.ofStored_ok_iff.mpr ⟨rfl, hpayload, hfacts, hlegible⟩, by rw [hhash, htrits]; rfl⟩
    · rw [Transaction.supply_eq]
      exact hlegible.natAbs_value_le
    · rw [Transaction.weight, hhash]
      exact (Hash.endsInZeros_iff (Hash.valid_identity _) minWeight).mp hends

theorem validate_eq_iff {r : Except ValidationError Transaction} :
    validate minWeight b = r ↔ Judged minWeight b r := by
  constructor
  · rintro rfl
    obtain ⟨r, hjudged⟩ := exists_judged minWeight b
    rwa [hjudged.validate_eq]
  · exact Judged.validate_eq

end judging

/-- Every payload gets exactly the verdict that is listed for it.  So it is
    accepted if and only if it has 1604 bytes, each of them between -121 and
    121, no trit of the amount above the first 33 is set, and the hash ends
    in as many zeros as are required; else the first check that fails is
    reported.  No amount exceeds the supply: it is at most half of 3 ^ 33
    in magnitude, and so are the sums from which it is added up, so they
    all fit in 64 bits. -/
theorem validate_judges (minWeight : Nat) (b : Bytes) :
    (∀ r, validate minWeight b = r ↔ Judged minWeight b r) ∧
    ((∃ t, validate minWeight b = .ok t) ↔
      b.length = 1604 ∧
      (∀ x ∈ b, -121 ≤ SignedByte.value x ∧ SignedByte.value x ≤ 121) ∧
      (∀ k, 33 ≤ k → k < 81 → Packed.tritAt b (Layout.value.offset + k) = 0) ∧
      (Transaction.hashOf b).EndsInZeros minWeight) ∧
    (∀ v, validate minWeight b ≠ .error (.valueOutOfRange v)) ∧
    ∀ t, Transaction.decode b = .ok t →
      t.value.natAbs ≤ (3 ^ 33 - 1) / 2 ∧
      (∀ k, (Balanced.value ((Layout.usableValue.read t.trits).drop k)).natAbs ≤
        (3 ^ 33 - 1) / 2) ∧
      (3 ^ 33 - 1) / 2 < 2 ^ 63 := by
  refine ⟨fun r => validate_eq_iff, ⟨?_, ?_⟩, ?_, fun t ht => ?_⟩
  · rintro ⟨t, h⟩
    cases validate_eq_iff.mp h with
    | accepted hlen hvalid hfits hends => exact ⟨hlen, hvalid, hfits, hends⟩
  · rintro ⟨hlen, hvalid, hfits, hends⟩
    obtain ⟨t, -, hhash, hpayload, htrits, hfacts⟩ := Transaction.decode_of_valid hlen hvalid
    exact ⟨t, (Judged.accepted hlen hvalid hfits hends hhash hpayload htrits hfacts).validate_eq⟩
  · intro v h
    cases validate_eq_iff.mp h
  · have hlegible := Transaction.legible_of_decode ht
    exact ⟨hlegible.natAbs_value_le, hlegible.natAbs_value_drop_le, by decide⟩

/-- Zeros are accepted if there are enough of them. -/
theorem validate_judges_zeros :
    (∃ t, Transaction.decode Transaction.zeros = .ok t ∧ validate 0 Transaction.zeros = .ok t ∧
      t.value.natAbs ≤ (3 ^ 33 - 1) / 2) ∧
    validate 0 [0, 0] = .error (.format (.invalidLength 1604 2)) := by
  obtain ⟨t, ht⟩ := validate_zeros
  have hdecode := decode_of_validate ht
  obtain ⟨-, -, -, hvalue⟩ := validate_judges 0 Transaction.zeros
  obtain ⟨hshort, -⟩ := validate_judges 0 [0, 0]
  exact ⟨⟨t, hdecode, ht, (hvalue t hdecode).1⟩, (hshort _).mpr (.length (by decide))⟩

end TernaryGossip
