import TernaryGossip.Proofs.Trit.Places

/-! # Full groups of places

    With five places for each byte no digit is lost: the places are filled
    with all digits of all bytes (`unpackFrom_full`), whatever they held
    before, and these pack to the bytes again.  A byte that is no group has
    no digits, and the first such byte ends the reading.

    So packing and reading undo each other in both directions
    (`packing_exact`): from balanced trits through bytes, also where the last
    group is short, and from bytes that are groups through trits. -/

namespace TernaryGossip.Packed

/-- All digits of all bytes. -/
def allDigits (b : Bytes) : Trits := b.flatMap fun x => Balanced.digits 5 (SignedByte.value x)

theorem allDigits_cons (x : UInt8) (bs : Bytes) :
    allDigits (x :: bs) = Balanced.digits 5 (SignedByte.value x) ++ allDigits bs :=
  List.flatMap_cons

theorem length_allDigits (b : Bytes) : (allDigits b).length = 5 * b.length := by
  induction b with
  | nil => rfl
  | cons x bs ih =>
    rw [allDigits_cons, List.length_append, Balanced.length_digits, ih, List.length_cons]
    omega

theorem balanced_allDigits (b : Bytes) : (allDigits b).Balanced := by
  intro t ht
  obtain ⟨x, -, hx⟩ := List.mem_flatMap.mp ht
  exact Balanced.balanced_digits 5 _ t hx

/-- The digits of groups pack to the groups. -/
theorem pack_allDigits {b : Bytes} (h : Valid b) : pack (allDigits b) = b := by
  induction b with
  | nil => rfl
  | cons x bs ih =>
    obtain ⟨hx, hbs⟩ := List.forall_mem_cons.mp h
    rw [allDigits_cons, pack_append (Balanced.length_digits 5 _), packGroup_digits hx, ih hbs]

/-- Five places for each byte take all digits. -/
theorem unpackFrom_full {b : Bytes} (h : Valid b) (position : Nat) {places : Trits}
    (hlen : places.length = 5 * b.length) :
    unpackFrom position b places = .ok (allDigits b) := by
  induction b generalizing position places with
  | nil =>
    rw [List.length_eq_zero_iff.mp hlen]
    rfl
  | cons x bs ih =>
    obtain ⟨hx, hbs⟩ := List.forall_mem_cons.mp h
    rw [List.length_cons] at hlen
    have hplaces : places ≠ [] := List.ne_nil_of_length_pos (by omega)
    have hmin : min 5 places.length = 5 := by omega
    have hrest : (places.drop 5).length = 5 * bs.length := by
      rw [List.length_drop]
      omega
    rw [unpackFrom_cons hx position bs hplaces, hmin, ih hbs (position + 1) hrest, allDigits_cons]
    rfl

/-- Balanced trits are packed five to a byte, the last byte for those that
    are left over.  Every byte is a group, and as many places as there were
    trits are filled with the trits.

    Five places for each byte can be filled if and only if all bytes are
    groups.  They are then filled with balanced trits that pack to the bytes;
    otherwise the first byte that is no group is reported with its value and
    its position. -/
theorem packing_exact :
    (∀ ts : Trits, ts.Balanced →
      (pack ts).length = (ts.length + 4) / 5 ∧ Valid (pack ts) ∧
      ∀ places : Trits, places.length = ts.length → unpackInto places (pack ts) = .ok ts) ∧
    ∀ (b : Bytes) (places : Trits), places.length = 5 * b.length →
      ((∃ ts, unpackInto places b = .ok ts) ↔ Valid b) ∧
      (∀ ts, unpackInto places b = .ok ts →
        ts.length = places.length ∧ ts.Balanced ∧ pack ts = b) ∧
      (¬ Valid b → ∃ x position, FirstBad b x position ∧
        unpackInto places b = .error (.invalidByte (SignedByte.value x) position)) := by
  constructor
  · intro ts hbalanced
    exact ⟨length_pack ts, valid_pack hbalanced,
      fun places hlen => unpackFrom_pack hbalanced 0 hlen⟩
  · intro b places hlen
    have hbytes : b.length = (places.length + 4) / 5 := by omega
    have hiff : (∃ ts, unpackInto places b = .ok ts) ↔ Valid b := unpackFrom_ok_iff hbytes
    refine ⟨hiff, ?_, ?_⟩
    · intro ts hts
      have hvalid : Valid b := hiff.mp ⟨ts, hts⟩
      obtain rfl : allDigits b = ts :=
        Except.ok.inj ((unpackFrom_full hvalid 0 hlen).symm.trans hts)
      exact ⟨by rw [length_allDigits, hlen], balanced_allDigits b, pack_allDigits hvalid⟩
    · intro hinvalid
      obtain ⟨x, i, hfirst⟩ := exists_firstBad hinvalid
      have herror : unpackInto places b = .error (.invalidByte (SignedByte.value x) (0 + i)) :=
        unpackFrom_of_firstBad hbytes hfirst
      rw [Nat.zero_add] at herror
      exact ⟨x, i, hfirst, herror⟩

/-- Eight trits take two bytes and are read back over what the places held,
    and of two bytes the second one is reported. -/
theorem packing_exact_short_group :
    Trits.Balanced [1, -1, 0, 1, 1, 1, -1, 1] ∧
    (pack [1, -1, 0, 1, 1, 1, -1, 1]).length = 2 ∧
    unpackInto (List.replicate 8 7) (pack [1, -1, 0, 1, 1, 1, -1, 1]) =
      .ok [1, -1, 0, 1, 1, 1, -1, 1] ∧
    ¬ Valid [0, 134] ∧
    unpackInto (List.replicate 10 7) [0, 134] = .error (.invalidByte (-122) 1) := by
  have hbalanced : Trits.Balanced [1, -1, 0, 1, 1, 1, -1, 1] := by decide
  have hinvalid : ¬ Valid [0, 134] := by decide +kernel
  obtain ⟨hlen, -, hread⟩ := packing_exact.1 _ hbalanced
  obtain ⟨-, -, herror⟩ := packing_exact.2 [0, 134] (List.replicate 10 7) rfl
  refine ⟨hbalanced, hlen, hread (List.replicate 8 7) rfl, hinvalid, ?_⟩
  -- the byte in front is a group
  obtain ⟨x, position, ⟨hget, hbad, -⟩, hreported⟩ := herror hinvalid
  match position, hget with
  | 0, hget =>
    cases hget
    exact absurd (by decide) hbad
  | 1, hget =>
    cases hget
    exact hreported

end TernaryGossip.Packed
