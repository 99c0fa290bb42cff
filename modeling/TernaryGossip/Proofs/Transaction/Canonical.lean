import TernaryGossip.Proofs.Transaction.Legible

/-! # Which payloads are told apart by their trits

    A payload has 1604 bytes, room for 8020 trits, and carries 8019.  The
    last byte is read as four trits, though any packed group of five is
    accepted there.  So packing the trits of a payload gives the payload
    again if and only if its last byte packs four trits.  All other bytes
    come back as they were.

    The hash is the digest of the trits.  It is a digest of the payload for
    canonical payloads, and only these are told apart by it: two payloads
    that differ in the fifth trit of the last byte are one transaction. -/

namespace TernaryGossip

namespace Transaction

/-- The last byte packs four trits, so the payload holds nothing beyond its
    8019 trits. -/
def Canonical (payload : Bytes) : Prop :=
  ∀ x ∈ payload.getLast?, (SignedByte.value x).natAbs ≤ 40

/-- A payload that decodes, cut before its last byte. -/
theorem pack_trits_of_decode {b : Bytes} {t : Transaction} (h : decode b = .ok t) :
    ∃ front x, b = front ++ [x] ∧
      Packed.pack t.trits =
        front ++ [Packed.packGroup (Balanced.digits 4 (SignedByte.value x))] := by
  obtain ⟨hlen, hvalid⟩ := exists_decode_iff.mp ⟨t, h⟩
  have hread : Packed.unpack 8019 b = .ok t.trits := by
    rw [← payload_of_decode h]
    exact legible_of_decode h
  have hne : b ≠ [] := List.ne_nil_of_length_eq_add_one hlen
  have hb : b = b.dropLast ++ [b.getLast hne] := (List.dropLast_concat_getLast hne).symm
  have hfront : b.dropLast.length = 1603 := by rw [List.length_dropLast, hlen]
  have hgroups : Packed.Valid b.dropLast := fun x hx => hvalid x (List.dropLast_subset b hx)
  refine ⟨b.dropLast, b.getLast hne, hb, ?_⟩
  have hrepack := Packed.repack_concat (r := 4) (by decide) (by decide) hgroups (b.getLast hne)
  rw [hfront, ← hb] at hrepack
  rw [Packed.pack_unpack (n := 8019) (by rw [hlen]) hread]
  exact hrepack

/-- Packing the trits of a payload gives the payload again if and only if it
    is canonical.  In any case only the last byte changes, and the result is
    a payload of the same transaction.  The hash is the digest of what is
    packed again, and payloads with the same trits differ in nothing but the
    last byte, and not at all if both are canonical. -/
theorem pack_trits_eq_iff {b c : Bytes} {t u : Transaction} (hb : decode b = .ok t)
    (hc : decode c = .ok u) :
    (Packed.pack t.trits = b ↔ Canonical b) ∧
    (Packed.pack t.trits).dropLast = b.dropLast ∧
    t.hash = Hash.ofTrits (Hash.squeezeTrits (Packed.pack t.trits)) ∧
    (∃ v, decode (Packed.pack t.trits) = .ok v ∧ v.trits = t.trits ∧ v.hash = t.hash) ∧
    (t.trits = u.trits →
      t.hash = u.hash ∧ b.dropLast = c.dropLast ∧ (Canonical b → Canonical c → b = c)) := by
  obtain ⟨front, x, hfront, hpack⟩ := pack_trits_of_decode hb
  obtain ⟨front', y, hfront', hpack'⟩ := pack_trits_of_decode hc
  have hhash := (decode_ok_iff.mp hb).2
  have hiff : ∀ {b : Bytes} {ts : Trits} {front : Bytes} {x : UInt8}, b = front ++ [x] →
      Packed.pack ts = front ++ [Packed.packGroup (Balanced.digits 4 (SignedByte.value x))] →
      (Packed.pack ts = b ↔ Canonical b) := by
    intro b ts front x hb hts
    have hfour := Packed.packGroup_digits_eq_iff (k := 4) (by decide) x
    rw [hts, hb, List.append_cancel_left_eq, List.singleton_inj, hfour, Canonical,
      List.getLast?_concat]
    simp only [Option.mem_some_iff, forall_eq']
    omega
  refine ⟨hiff hfront hpack, ?_, hhash, ?_, ?_⟩
  · rw [hpack, hfront, List.dropLast_concat, List.dropLast_concat]
  · -- the trits are balanced, so they are read from what is packed
    have hread := Packed.unpack_pack (legible_of_decode hb).balanced
    rw [t.length_trits] at hread
    have hlen : (Packed.pack t.trits).length = 1604 := by
      rw [Packed.length_pack, t.length_trits]
    refine ⟨{ t with payload := Packed.pack t.trits, facts := .fresh .filled,
                     length_payload := hlen }, ?_, rfl, rfl⟩
    exact decode_ok_iff.mpr ⟨ofStored_ok_iff.mpr ⟨rfl, rfl, rfl, hread⟩, hhash⟩
  · intro htrits
    have hsame : front = front' := by
      rw [htrits, hpack'] at hpack
      exact (List.append_inj_left' hpack rfl).symm
    refine ⟨by rw [hhash, (decode_ok_iff.mp hc).2, htrits], ?_, ?_⟩
    · rw [hfront, hfront', List.dropLast_concat, List.dropLast_concat, hsame]
    · intro hcanonical hcanonical'
      rw [← (hiff hfront hpack).mpr hcanonical, ← (hiff hfront' hpack').mpr hcanonical', htrits]

/-! ### Zeros -/

theorem canonical_zeros : Canonical zeros := by
  intro x hx
  rw [zeros, List.getLast?_replicate] at hx
  cases hx
  decide

/-- The payload of zeros is packed again as it was. -/
theorem pack_trits_eq_iff_zeros :
    ∃ t, decode zeros = .ok t ∧ Canonical zeros ∧ Packed.pack t.trits = zeros := by
  obtain ⟨t, hdecode, _, _⟩ := decode_zeros
  exact ⟨t, hdecode, canonical_zeros, (pack_trits_eq_iff hdecode hdecode).1.mpr canonical_zeros⟩

/-- Zeros, with one in the place after the last trit. -/
def zerosBeyond : Bytes := List.replicate 1603 0 ++ [81]

/-- A payload that differs from zeros is decoded to the trits of zeros and
    has their hash. -/
theorem zerosBeyond_decodes_to_zeros :
    zerosBeyond ≠ zeros ∧
      ∃ t u, decode zerosBeyond = .ok t ∧ decode zeros = .ok u ∧ t.trits = u.trits ∧
        t.hash = u.hash ∧ Packed.pack t.trits ≠ zerosBeyond := by
  have hvalid : Packed.Valid zerosBeyond := by
    intro x hx
    rcases List.mem_append.mp hx with hx | hx
    · rw [List.eq_of_mem_replicate hx]
      decide
    · rw [List.mem_singleton.mp hx]
      decide
  have hlen : zerosBeyond.length = 1604 := by
    rw [zerosBeyond, List.length_append, List.length_replicate]
    rfl
  have hne : zerosBeyond ≠ zeros := by
    intro heq
    have hlast : zerosBeyond.getLast? = some 81 := List.getLast?_concat
    rw [heq, zeros, List.getLast?_replicate] at hlast
    cases hlast
  obtain ⟨t, hdecode⟩ := exists_decode_iff.mpr ⟨hlen, hvalid⟩
  obtain ⟨u, hzeros, _, hu⟩ := decode_zeros
  obtain ⟨front, x, hfront, hpack⟩ := pack_trits_of_decode hdecode
  -- the low four digits of the last byte are zero
  have hcut : front = List.replicate 1603 0 ∧ [x] = [81] := List.append_inj' hfront.symm rfl
  have hrepack : Packed.pack t.trits = zeros := by
    have hlow : Packed.packGroup (Balanced.digits 4 (SignedByte.value 81)) = 0 := by decide
    rw [hpack, hcut.1, List.singleton_inj.mp hcut.2, hlow]
    exact List.replicate_append_replicate (n := 1603) (m := 1)
  have hread := Packed.unpack_pack (legible_of_decode hdecode).balanced
  rw [t.length_trits, hrepack] at hread
  have hulegible := legible_of_decode hzeros
  rw [Legible, payload_of_decode hzeros, hread] at hulegible
  have htrits : t.trits = u.trits := Except.ok.inj hulegible
  refine ⟨hne, t, u, hdecode, hzeros, htrits, ?_, ?_⟩
  · rw [(decode_ok_iff.mp hdecode).2, (decode_ok_iff.mp hzeros).2, htrits]
  · rw [hrepack]
    exact hne.symm

end Transaction

end TernaryGossip
