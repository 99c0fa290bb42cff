import TernaryGossip.Proofs.Trit.HashText

/-! # The bytes of a hash and its trits

    A hash has 49 bytes, room for 245 trits, and carries 243.  The last byte
    is read as three trits, though any packed group of five is accepted
    there.  So a valid hash is made from its trits if and only if its last
    byte packs three trits; if it is not, it shares its trits, its text and
    its weight with another hash, the one that is.

    In particular the null hash is not the only one that weighs 243: there
    are hashes of 48 zero bytes that have the two last digits of the last
    byte set. -/

namespace TernaryGossip.Hash

/-! ## The last byte -/

/-- All bytes but the last. -/
def front (h : Hash) : Bytes := h.bytes.dropLast

/-- The last byte. -/
def lastByte (h : Hash) : UInt8 := h.bytes.getLastD 0

/-- The last byte packs three trits, so the hash holds nothing beyond its 243
    trits. -/
def Canonical (h : Hash) : Prop := (SignedByte.value h.lastByte).natAbs ≤ 13

instance (h : Hash) : Decidable h.Canonical := inferInstanceAs (Decidable (_ ≤ _))

theorem bytes_eq (h : Hash) : h.bytes = h.front ++ [h.lastByte] := by
  have hne : h.bytes ≠ [] := List.ne_nil_of_length_eq_add_one h.length_bytes
  rw [front, lastByte, List.getLastD_eq_getLast?, List.getLast?_eq_some_getLast hne,
    Option.getD_some, List.dropLast_concat_getLast]

theorem length_front (h : Hash) : h.front.length = 48 := by
  rw [front, List.length_dropLast, h.length_bytes]

theorem eq_of_parts {a b : Hash} (hfront : a.front = b.front) (hlast : a.lastByte = b.lastByte) :
    a = b := by
  apply eq_of_bytes_eq
  rw [a.bytes_eq, b.bytes_eq, hfront, hlast]

/-! ## Trits -/

variable {a b h : Hash} {ts us : Trits}

/-- A hash can be read as trits if and only if it is valid. -/
theorem exists_trits_iff : (∃ ts, h.trits = .ok ts) ↔ h.Valid :=
  Packed.unpack_ok_iff (by rw [h.length_bytes])

theorem length_of_trits (htrits : h.trits = .ok ts) : ts.length = 243 :=
  Packed.length_of_unpack htrits

theorem balanced_of_trits (htrits : h.trits = .ok ts) : ts.Balanced :=
  Packed.balanced_of_unpack htrits

/-- The hash of the trits that were read has the same bytes in front, and at
    the end the digits that were read. -/
theorem bytes_ofTrits_of_trits (htrits : h.trits = .ok ts) :
    (ofTrits ts).bytes =
      h.front ++ [Packed.packGroup (Balanced.digits 3 (SignedByte.value h.lastByte))] := by
  have hvalid : Packed.Valid h.front := fun x hx =>
    exists_trits_iff.mp ⟨ts, htrits⟩ x (List.dropLast_subset h.bytes hx)
  have hrepack := Packed.repack_concat (r := 3) (by decide) (by decide) hvalid h.lastByte
  rw [h.length_front, ← h.bytes_eq] at hrepack
  rw [bytes_ofTrits, Trits.fit_of_length (length_of_trits htrits),
    Packed.pack_unpack (n := 243) (by rw [h.length_bytes]) htrits]
  exact hrepack

/-- A valid hash is made from its trits if and only if it is canonical. -/
theorem ofTrits_eq_iff (htrits : h.trits = .ok ts) : ofTrits ts = h ↔ h.Canonical := by
  have hthree := Packed.packGroup_digits_eq_iff (k := 3) (by decide) h.lastByte
  have hbytes : ofTrits ts = h ↔ (ofTrits ts).bytes = h.bytes :=
    ⟨congrArg bytes, eq_of_bytes_eq⟩
  rw [hbytes, bytes_ofTrits_of_trits htrits, h.bytes_eq, List.append_cancel_left_eq,
    List.singleton_inj, hthree, Canonical]
  omega

/-- The hashes made from balanced trits are the valid and canonical ones. -/
theorem proper_iff : h.Proper ↔ h.Valid ∧ h.Canonical := by
  constructor
  · intro hproper
    obtain ⟨ts, -, -, htrits, hsame⟩ := hproper.exists_trits
    exact ⟨exists_trits_iff.mp ⟨ts, htrits⟩, (ofTrits_eq_iff htrits).mp hsame.symm⟩
  · rintro ⟨hvalid, hcanonical⟩
    obtain ⟨ts, htrits⟩ := exists_trits_iff.mpr hvalid
    exact ⟨ts, balanced_of_trits htrits, ((ofTrits_eq_iff htrits).mpr hcanonical).symm⟩

/-- Two valid hashes have the same trits if and only if they differ in the
    last byte alone, and there by a multiple of 27. -/
theorem trits_eq_iff (ha : a.trits = .ok ts) (hb : b.trits = .ok us) :
    ts = us ↔ a.front = b.front ∧
      SignedByte.value a.lastByte % 27 = SignedByte.value b.lastByte % 27 := by
  have hdigits := Balanced.digits_eq_iff 3 (SignedByte.value a.lastByte) (SignedByte.value b.lastByte)
  have hpower : Int.pow 3 3 = 27 := rfl
  rw [hpower] at hdigits
  have hbytes := bytes_ofTrits_of_trits ha
  have hbytes' := bytes_ofTrits_of_trits hb
  rw [← hdigits]
  constructor
  · rintro rfl
    obtain ⟨hfront, hlast⟩ := List.append_inj' (hbytes.symm.trans hbytes') rfl
    refine ⟨hfront, ?_⟩
    -- the two last groups are balanced, so their packed values tell them apart
    have hvalue := congrArg SignedByte.value (List.singleton_inj.mp hlast)
    rw [Packed.value_packGroup (Balanced.balanced_digits 3 _) (by simp),
      Packed.value_packGroup (Balanced.balanced_digits 3 _) (by simp)] at hvalue
    have hread := Balanced.digits_value (Balanced.balanced_digits 3 (SignedByte.value a.lastByte))
    have hread' := Balanced.digits_value (Balanced.balanced_digits 3 (SignedByte.value b.lastByte))
    rw [Balanced.length_digits] at hread hread'
    rw [← hread, ← hread', hvalue]
  · rintro ⟨hfront, hlast⟩
    have hsame : ofTrits ts = ofTrits us := by
      apply eq_of_bytes_eq
      rw [hbytes, hbytes', hfront, hlast]
    have hread := trits_ofTrits (balanced_of_trits ha)
    rw [hsame, trits_ofTrits (balanced_of_trits hb), Trits.fit_of_length (length_of_trits ha),
      Trits.fit_of_length (length_of_trits hb)] at hread
    exact (Except.ok.inj hread).symm

/-- Canonical hashes are told apart by their trits. -/
theorem eq_of_canonical (ha : a.Canonical) (hb : b.Canonical) (htrits : a.trits = .ok ts)
    (htrits' : b.trits = .ok ts) : a = b :=
  ((ofTrits_eq_iff htrits).mpr ha).symm.trans ((ofTrits_eq_iff htrits').mpr hb)

/-! ## Text -/

/-- The text of a hash is that of its trits. -/
theorem toTrytes_of_trits (htrits : h.trits = .ok ts) : h.toTrytes = (ofTrits ts).toTrytes := by
  have hread := trits_ofTrits (balanced_of_trits htrits)
  rw [Trits.fit_of_length (length_of_trits htrits)] at hread
  have hwrite : Tryte.write ts = .ok (String.ofList (Tryte.chars ts)) := by
    rw [Tryte.write, if_pos (by rw [length_of_trits htrits])]
  simp only [toTrytes, htrits, hread, bind, Except.bind, hwrite]

/-- Valid hashes have the same text if and only if they have the same trits. -/
theorem toTrytes_eq_iff (ha : a.trits = .ok ts) (hb : b.trits = .ok us) :
    a.toTrytes = b.toTrytes ↔ ts = us := by
  have hbalanced := balanced_of_trits ha
  have hbalanced' := balanced_of_trits hb
  rw [toTrytes_of_trits ha, toTrytes_of_trits hb,
    Proper.toTrytes_inj ⟨ts, hbalanced, rfl⟩ ⟨us, hbalanced', rfl⟩]
  constructor
  · intro hsame
    have hread := trits_ofTrits hbalanced
    rw [hsame, trits_ofTrits hbalanced', Trits.fit_of_length (length_of_trits ha),
      Trits.fit_of_length (length_of_trits hb)] at hread
    exact (Except.ok.inj hread).symm
  · exact congrArg ofTrits

/-! ## Weight -/

theorem trits_null : null.trits = .ok (List.replicate 243 0) := by
  have hnil : Trits.Balanced [] := by decide
  exact trits_ofTrits hnil

theorem weight_le (h : Hash) : h.weight ≤ 243 := by
  unfold weight
  split
  · next ts htrits =>
    have hle := (List.takeWhile_sublist (fun t : Int => t == 0) (l := ts.reverse)).length_le
    rw [List.length_reverse, length_of_trits htrits] at hle
    exact hle
  · exact Nat.zero_le _

/-- A hash has the greatest weight if all its trits are zero. -/
theorem weight_eq_iff (htrits : h.trits = .ok ts) :
    h.weight = 243 ↔ ts = List.replicate 243 0 := by
  have hlen := length_of_trits htrits
  simp only [weight, htrits]
  constructor
  · intro hall
    -- what is taken from the end is everything, and all of it is zero
    have hprefix := List.takeWhile_prefix (fun t : Int => t == 0) (l := ts.reverse)
    have hsame := hprefix.eq_of_length (by rw [hall, List.length_reverse, hlen])
    rw [List.eq_replicate_iff]
    refine ⟨hlen, fun t ht => ?_⟩
    have hzero := List.all_eq_true.mp (List.all_takeWhile (p := fun t : Int => t == 0)
      (l := ts.reverse)) t
    rw [hsame, List.mem_reverse] at hzero
    simpa using hzero ht
  · rintro rfl
    rw [List.reverse_replicate, List.takeWhile_replicate, if_pos (by decide),
      List.length_replicate]

/-- The greatest weight is that of the hashes whose trits are those of the
    null hash: zeros in front, and a multiple of 27 at the end. -/
theorem weight_top_iff (hvalid : h.Valid) :
    h.weight = 243 ↔ h.front = List.replicate 48 0 ∧ 27 ∣ SignedByte.value h.lastByte := by
  obtain ⟨ts, htrits⟩ := exists_trits_iff.mpr hvalid
  have hfront : null.front = List.replicate 48 0 := by decide
  have hlast : SignedByte.value null.lastByte = 0 := by decide
  rw [weight_eq_iff htrits, trits_eq_iff htrits trits_null, hfront, hlast, Int.zero_emod,
    Int.dvd_iff_emod_eq_zero]

/-- A hash of the greatest weight that ends in a zero byte is null. -/
theorem eq_null_of_weight_top (hvalid : h.Valid) (htop : h.weight = 243)
    (hlast : SignedByte.value h.lastByte = 0) : h = null := by
  have hbyte : h.lastByte = null.lastByte := by
    rw [← SignedByte.wrap_value h.lastByte, hlast]
    decide
  have hfront : null.front = List.replicate 48 0 := by decide
  exact eq_of_parts (((weight_top_iff hvalid).mp htop).1.trans hfront.symm) hbyte

/-- Of the canonical hashes only the null hash has the greatest weight. -/
theorem Canonical.weight_top_iff_null (hcanonical : h.Canonical) (hvalid : h.Valid) :
    h.weight = 243 ↔ h = null := by
  obtain ⟨ts, htrits⟩ := exists_trits_iff.mpr hvalid
  constructor
  · intro htop
    rw [(weight_eq_iff htrits).mp htop] at htrits
    exact eq_of_canonical hcanonical (by decide) htrits trits_null
  · rintro rfl
    exact (weight_eq_iff trits_null).mpr rfl

end TernaryGossip.Hash
