import TernaryGossip.Proofs.Transaction.Accepting
import TernaryGossip.Proofs.Trit.Packing

/-! # Transactions that say what their payload says

    A transaction is legible if its trits are those that are read from its
    payload.  So it is, however it was made: decoded, read back from a store,
    built from balanced trits, or put in the place of an unknown one.

    A transaction that is decoded differs from one that is read back under
    its hash in nothing but that the hash is its own. -/

namespace TernaryGossip.Transaction

/-- The trits are read from the payload. -/
def Legible (t : Transaction) : Prop := Packed.unpack 8019 t.payload = .ok t.trits

namespace Legible

variable {t : Transaction}

theorem balanced (h : t.Legible) : t.trits.Balanced := Packed.balanced_of_unpack h

/-- What a payload says does not depend on the transaction that carries it. -/
theorem trits_eq {u : Transaction} (h : t.Legible) (h' : u.Legible)
    (hpayload : t.payload = u.payload) : t.trits = u.trits := by
  unfold Legible at h h'
  rw [hpayload, h'] at h
  exact (Except.ok.inj h).symm

/-- Nor on the hash that it is under. -/
theorem rename (h : t.Legible) (hash : Hash) : ({ t with hash } : Transaction).Legible := h

end Legible

/-! ## Reading back -/

theorem readPayload_ok_iff {b : Bytes} {ts : { ts : Trits // b.length = 1604 ∧ ts.length = 8019 }} :
    readPayload b = .ok ts ↔ Packed.unpack 8019 b = .ok ts.1 := by
  unfold readPayload
  rw [dif_pos ts.2.1]
  constructor
  · intro h
    split at h
    · next hread =>
      rw [← Except.ok.inj h]
      exact hread
    · cases h
  · intro h
    split
    · next hread =>
      rw [h] at hread
      cases hread
      rfl
    · next hread =>
      rw [h] at hread
      cases hread

theorem ofStored_ok_iff {hash : Hash} {b : Bytes} {t : Transaction} :
    ofStored hash b = .ok t ↔
      t.hash = hash ∧ t.payload = b ∧ t.facts = .fresh .filled ∧ t.Legible := by
  unfold ofStored
  constructor
  · intro h
    split at h
    · next ts hb hts hread =>
      cases h
      exact ⟨rfl, rfl, rfl, readPayload_ok_iff.mp hread⟩
    · cases h
  · rintro ⟨rfl, rfl, hfacts, hlegible⟩
    have hread : readPayload t.payload = .ok ⟨t.trits, t.length_payload, t.length_trits⟩ :=
      readPayload_ok_iff.mpr hlegible
    rw [hread]
    simp only [← hfacts]

/-! ## Decoding -/

theorem decode_ok_iff {b : Bytes} {t : Transaction} :
    decode b = .ok t ↔ ofStored t.hash b = .ok t ∧ t.hash = Hash.identity t.trits := by
  unfold decode ofStored
  cases readPayload b with
  | error e => simp
  | ok read =>
    obtain ⟨ts, hb, hts⟩ := read
    simp only [Except.ok.injEq]
    constructor
    · intro h
      rw [← h]
      exact ⟨rfl, rfl⟩
    · rintro ⟨h, hhash⟩
      rw [← h] at hhash ⊢
      simp only at hhash
      simp only [hhash]

theorem legible_of_decode {b : Bytes} {t : Transaction} (h : decode b = .ok t) : t.Legible :=
  (ofStored_ok_iff.mp (decode_ok_iff.mp h).1).2.2.2

/-- A payload decodes if it has the right length and every byte is a group. -/
theorem exists_decode_iff {b : Bytes} :
    (∃ t, decode b = .ok t) ↔ b.length = 1604 ∧ Packed.Valid b := by
  constructor
  · rintro ⟨t, h⟩
    have hread := legible_of_decode h
    rw [Legible, payload_of_decode h] at hread
    have hlen : b.length = 1604 := by rw [← payload_of_decode h, t.length_payload]
    exact ⟨hlen, (Packed.unpack_ok_iff (by rw [hlen])).mp ⟨_, hread⟩⟩
  · rintro ⟨hlen, hvalid⟩
    obtain ⟨ts, hread⟩ := (Packed.unpack_ok_iff (n := 8019) (by rw [hlen])).mpr hvalid
    refine ⟨⟨Hash.identity ts, b, ts, .fresh .filled, hlen, Packed.length_of_unpack hread⟩, ?_⟩
    exact decode_ok_iff.mpr ⟨ofStored_ok_iff.mpr ⟨rfl, rfl, rfl, hread⟩, rfl⟩

/-! ## Building -/

theorem balanced_fill {ts : Trits} (h : ts.Balanced) : (fill ts).Balanced := by
  intro t ht
  rcases List.mem_append.mp ht with ht | ht
  · exact h t (List.mem_of_mem_take ht)
  · rw [List.eq_of_mem_replicate ht]
    decide

theorem legible_ofTrits {ts : Trits} (h : ts.Balanced) : (ofTrits ts).Legible := by
  have hread := Packed.unpack_pack (balanced_fill h)
  rwa [length_fill] at hread

theorem legible_placeholder (hash : Hash) : (placeholder hash).Legible :=
  Packed.unpackFrom_zeros 0 (by decide)

end TernaryGossip.Transaction
