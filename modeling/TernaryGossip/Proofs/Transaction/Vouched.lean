import TernaryGossip.Proofs.Transaction.Legible

/-! # Hashes that a payload vouches for

    A payload vouches for a hash if it is accepted as the transaction of that
    name.  What is vouched for under one weight is vouched for under every
    lesser one.

    Every hash that an accepted transaction names is made from balanced
    trits, so its bytes are packed groups and whoever receives it takes it
    for a hash. -/

namespace TernaryGossip

/-! ## Hashes made from balanced trits -/

namespace Hash

theorem valid_ofBytes {b : Bytes} (h : Packed.Valid b) : (ofBytes b).Valid := by
  intro x hx
  rcases List.mem_append.mp hx with hx | hx
  · exact h x (List.mem_of_mem_take hx)
  · -- the bytes that are filled in are zeros
    rw [List.eq_of_mem_replicate hx]
    decide

theorem valid_null : null.Valid := valid_ofBytes fun _ hx => absurd hx List.not_mem_nil

theorem valid_ofTrits {ts : Trits} (h : ts.Balanced) : (ofTrits ts).Valid :=
  valid_ofBytes (Packed.valid_pack fun t ht => h t (List.mem_of_mem_take ht))

theorem balanced_squeezeTrits (message : Bytes) : (squeezeTrits message).Balanced := by
  intro t ht
  obtain ⟨b, _, rfl⟩ := List.mem_map.mp ht
  have hlt : b.toNat % 3 < 3 := Nat.mod_lt _ (by decide)
  omega

theorem valid_identity (ts : Trits) : (identity ts).Valid := valid_ofTrits (balanced_squeezeTrits _)

end Hash

/-- The hashes in a legible transaction can be read. -/
theorem Transaction.Legible.valid_fieldHash {t : Transaction} (h : t.Legible) (f : Layout.Field) :
    (t.fieldHash f).Valid := by
  apply Hash.valid_ofTrits
  intro x hx
  exact h.balanced x (List.mem_of_mem_drop (List.mem_of_mem_take hx))

/-! ## Acceptance -/

/-- A payload is accepted as the transaction of this name. -/
def Vouched (minWeight : Nat) (h : Hash) (payload : Bytes) : Prop :=
  ∃ t, validate minWeight payload = .ok t ∧ t.hash = h

namespace Vouched

variable {minWeight : Nat} {h : Hash} {payload : Bytes}

/-- Who asks for less weight accepts the same payload. -/
theorem mono (hv : Vouched minWeight h payload) {less : Nat} (hle : less ≤ minWeight) :
    Vouched less h payload := by
  obtain ⟨t, hvalid, hhash⟩ := hv
  obtain ⟨hdecode, hunused, hvalue, hweight⟩ := validate_ok_iff.mp hvalid
  exact ⟨t, validate_ok_iff.mpr ⟨hdecode, hunused, hvalue, Nat.le_trans hle hweight⟩, hhash⟩

/-- The hash is that of the trits. -/
theorem valid (hv : Vouched minWeight h payload) : h.Valid := by
  obtain ⟨t, hvalid, rfl⟩ := hv
  rw [(Transaction.decode_ok_iff.mp (decode_of_validate hvalid)).2]
  exact Hash.valid_identity t.trits

end Vouched

end TernaryGossip
