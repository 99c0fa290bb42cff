import TernaryGossip.Transaction.Validation

/-! # What an accepted payload decodes to

    A payload is accepted if it decodes to a transaction whose amount and
    weight are in order.  It is then the payload of that transaction.  A
    payload of zeros is accepted when no weight is required. -/

namespace TernaryGossip

theorem Transaction.payload_of_decode {payload : Bytes} {t : Transaction}
    (h : decode payload = .ok t) : t.payload = payload := by
  unfold decode at h
  split at h
  · rw [← Except.ok.inj h]
  · cases h

/-- The checks run one after another, but whether a payload passes does not
    depend on their order. -/
theorem validate_ok_iff {minWeight : Nat} {payload : Bytes} {t : Transaction} :
    validate minWeight payload = .ok t ↔
      Transaction.decode payload = .ok t ∧ t.unusedValueIsZero = true ∧
        t.value.natAbs ≤ Layout.supply.toNat ∧ minWeight ≤ t.weight := by
  unfold validate
  cases Transaction.decode payload with
  | error e => simp
  | ok u =>
    simp only [Except.ok.injEq]
    constructor
    · intro h
      split at h
      · cases h
      · next hunused =>
        split at h
        · cases h
        · next hvalue =>
          split at h
          · cases h
          · next hweight =>
            cases h
            exact ⟨rfl, by simpa using hunused, Nat.le_of_not_lt hvalue, Nat.le_of_not_lt hweight⟩
    · rintro ⟨rfl, hunused, hvalue, hweight⟩
      simp [hunused, Nat.not_lt.mpr hvalue, Nat.not_lt.mpr hweight]

theorem decode_of_validate {minWeight : Nat} {payload : Bytes} {t : Transaction}
    (h : validate minWeight payload = .ok t) : Transaction.decode payload = .ok t :=
  (validate_ok_iff.mp h).1

theorem payload_of_validate {minWeight : Nat} {payload : Bytes} {t : Transaction}
    (h : validate minWeight payload = .ok t) : t.payload = payload :=
  Transaction.payload_of_decode (decode_of_validate h)

theorem length_of_validate {minWeight : Nat} {payload : Bytes} {t : Transaction}
    (h : validate minWeight payload = .ok t) : payload.length = 1604 := by
  rw [← payload_of_validate h, t.length_payload]

/-! ## Zeros -/

namespace Balanced

theorem digits_zero (n : Nat) : digits n 0 = List.replicate n 0 := by
  induction n with
  | zero => rfl
  | succ n ih => rw [List.replicate_succ, ← ih]; rfl

theorem value_zeros (n : Nat) : value (List.replicate n 0) = 0 := by
  induction n with
  | zero => rfl
  | succ n ih => rw [List.replicate_succ, value_cons, ih]; rfl

end Balanced

theorem Packed.unpackFrom_zeros (position : Nat) {bytes places : Nat} (h : places ≤ 5 * bytes) :
    unpackFrom position (List.replicate bytes 0) (List.replicate places 0) =
      .ok (List.replicate places 0) := by
  induction bytes generalizing position places with
  | zero =>
    obtain rfl : places = 0 := by omega
    rfl
  | succ bytes ih =>
    cases places with
    | zero => rfl
    | succ places =>
      -- one byte yields up to five places, the rest is read from the others
      have hgroup : IsGroup 0 := by decide
      have hzero : SignedByte.value 0 = 0 := by decide
      have hsplit : min 5 (places + 1) + (places + 1 - 5) = places + 1 := by omega
      have hle : places + 1 - 5 ≤ 5 * bytes := by omega
      have hrest := ih (position + 1) hle
      rw [List.replicate_succ, unpackFrom, if_pos hgroup, List.drop_replicate, hrest,
        List.length_replicate, hzero, Balanced.digits_zero]
      · show Except.ok _ = _
        rw [List.replicate_append_replicate, hsplit]
      · simp

theorem Layout.read_zeros (f : Field) (n : Nat) :
    f.read (List.replicate n 0) = List.replicate (min f.size (n - f.offset)) 0 := by
  rw [Field.read, List.drop_replicate, List.take_replicate]

namespace Transaction

/-- The payload of zeros. -/
def zeros : Bytes := List.replicate 1604 0

theorem decode_zeros :
    ∃ t, decode zeros = .ok t ∧ t.payload = zeros ∧ t.trits = List.replicate 8019 0 := by
  have hread : Packed.unpack 8019 zeros = .ok (List.replicate 8019 0) :=
    Packed.unpackFrom_zeros 0 (by decide)
  have hpayload : ∃ ts, readPayload zeros = .ok ts ∧ ts.1 = List.replicate 8019 0 := by
    have hlength : zeros.length = 1604 := List.length_replicate
    unfold readPayload
    rw [dif_pos hlength]
    split
    · next ts hts => exact ⟨_, rfl, Except.ok.inj (hts.symm.trans hread)⟩
    · next e he => rw [hread] at he; cases he
  obtain ⟨⟨ts, hb, hts⟩, hok, rfl⟩ := hpayload
  exact ⟨_, by unfold decode; rw [hok], rfl, rfl⟩

end Transaction

/-- The payload of zeros is accepted when no weight is required. -/
theorem validate_zeros : ∃ t, validate 0 Transaction.zeros = .ok t := by
  obtain ⟨t, hdecode, _, htrits⟩ := Transaction.decode_zeros
  -- the two conditions on the value, as no weight is required
  have hunused : t.unusedValueIsZero = true := by
    rw [Transaction.unusedValueIsZero, htrits, Layout.read_zeros, List.all_replicate]
    split <;> rfl
  have hvalue : t.value = 0 := by
    rw [Transaction.value, Transaction.fieldNumber, htrits, Layout.read_zeros,
      Balanced.value_zeros]
  refine ⟨t, ?_⟩
  simp [validate, hdecode, hunused, hvalue]

end TernaryGossip
