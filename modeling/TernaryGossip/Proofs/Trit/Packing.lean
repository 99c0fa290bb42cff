import Mathlib.Algebra.GroupWithZero.Nat
import TernaryGossip.Trit.Packed

/-! # Packing and reading trits

    A byte packs the digits of a number, so packing and reading undo each
    other as far as the digits reach: `n` digits carry the numbers up to
    `(3 ^ n - 1) / 2` in magnitude and no others.

    Balanced trits are read back as they were (`unpackFrom_pack`).  The other
    way round only full groups are sure to be packed again as they were; a
    last group with fewer places loses the digits for which it has none
    (`pack_unpackFrom`). -/

namespace TernaryGossip

namespace Balanced

/-! ## The numbers that digits carry -/

theorem natAbs_value_lt {ts : Trits} (h : ts.Balanced) : 2 * (value ts).natAbs < 3 ^ ts.length := by
  induction ts with
  | nil => decide
  | cons t ts ih =>
    have ht := h t List.mem_cons_self
    have hts := ih fun x hx => h x (List.mem_cons_of_mem t hx)
    rw [value_cons, List.length_cons, Nat.pow_succ]
    omega

theorem value_digits_of_lt {n : Nat} {v : Int} (h : 2 * v.natAbs < 3 ^ n) :
    value (digits n v) = v := by
  induction n generalizing v with
  | zero =>
    have hv : v = 0 := by omega
    rw [hv]
    rfl
  | succ n ih =>
    have hsplit := digit_add_shift v
    have hdigit := digit_bounds v
    -- a third of the number is left, and it is not half of an odd power
    have hodd : 3 ^ n % 2 = 1 := by rw [Nat.pow_mod, Nat.one_pow]
    have hshift : 2 * (shift v).natAbs < 3 ^ n := by
      rw [Nat.pow_succ] at h
      omega
    rw [digits, value_cons, ih hshift, hsplit]

theorem value_digits_eq_iff (n : Nat) (v : Int) : value (digits n v) = v ↔ 2 * v.natAbs < 3 ^ n := by
  constructor
  · intro hv
    have hlt := natAbs_value_lt (balanced_digits n v)
    rwa [hv, length_digits] at hlt
  · exact value_digits_of_lt

/-- Digits tell numbers apart up to multiples of the power that they reach. -/
theorem digits_eq_iff (n : Nat) (v w : Int) :
    digits n v = digits n w ↔ v % Int.pow 3 n = w % Int.pow 3 n := by
  obtain ⟨k, hk⟩ := value_digits n v
  obtain ⟨l, hl⟩ := value_digits n w
  constructor
  · intro heq
    rw [hk, hl, heq, Int.add_mul_emod_self_left, Int.add_mul_emod_self_left]
  · intro hmod
    rw [hk, hl, Int.add_mul_emod_self_left, Int.add_mul_emod_self_left] at hmod
    -- both values are below half the power, so they are equal if congruent
    have hv := natAbs_value_lt (balanced_digits n v)
    have hw := natAbs_value_lt (balanced_digits n w)
    rw [length_digits] at hv hw
    have hdvd : Int.pow 3 n ∣ value (digits n v) - value (digits n w) :=
      Int.dvd_of_emod_eq_zero (Int.emod_eq_emod_iff_emod_sub_eq_zero.mp hmod)
    have hvalue : value (digits n v) = value (digits n w) := by
      refine Int.eq_of_sub_eq_zero (Int.eq_zero_of_dvd_of_natAbs_lt_natAbs hdvd ?_)
      have hsize : (Int.pow 3 n).natAbs = 3 ^ n := Int.natAbs_pow 3 n
      omega
    have hv' := digits_value (balanced_digits n v)
    have hw' := digits_value (balanced_digits n w)
    rw [length_digits] at hv' hw'
    rw [← hv', ← hw', hvalue]

end Balanced

namespace Packed

/-! ## One group -/

theorem value_packGroup {g : Trits} (hg : g.Balanced) (hlen : g.length ≤ 5) :
    SignedByte.value (packGroup g) = Balanced.value g := by
  have hlt := Balanced.natAbs_value_lt hg
  have hpow : 3 ^ g.length ≤ 3 ^ 5 := Nat.pow_le_pow_right (by decide) hlen
  exact SignedByte.value_wrap (by omega) (by omega)

theorem isGroup_packGroup {g : Trits} (hg : g.Balanced) (hlen : g.length ≤ 5) :
    IsGroup (packGroup g) := by
  have hlt := Balanced.natAbs_value_lt hg
  have hpow : 3 ^ g.length ≤ 3 ^ 5 := Nat.pow_le_pow_right (by decide) hlen
  rw [IsGroup, value_packGroup hg hlen, bound]
  omega

/-- A byte is packed again from its low digits if they carry all of it. -/
theorem packGroup_digits_eq_iff {k : Nat} (hk : k ≤ 5) (x : UInt8) :
    packGroup (Balanced.digits k (SignedByte.value x)) = x ↔
      2 * (SignedByte.value x).natAbs < 3 ^ k := by
  rw [← Balanced.value_digits_eq_iff]
  constructor
  · intro hx
    have hvalue := value_packGroup (Balanced.balanced_digits k (SignedByte.value x))
      (by rw [Balanced.length_digits]; exact hk)
    rw [hx] at hvalue
    exact hvalue.symm
  · intro hv
    rw [packGroup, hv, SignedByte.wrap_value]

theorem packGroup_digits {x : UInt8} (hx : IsGroup x) :
    packGroup (Balanced.digits 5 (SignedByte.value x)) = x := by
  obtain ⟨hlow, hhigh⟩ := hx
  rw [packGroup_digits_eq_iff (Nat.le_refl 5)]
  unfold bound at hlow hhigh
  omega

theorem pack_append {g : Trits} (hg : g.length = 5) (rest : Trits) :
    pack (g ++ rest) = packGroup g :: pack rest := by
  match g, hg with
  | [a, b, c, d, e], _ => rfl

theorem pack_of_length {g : Trits} (hpos : 0 < g.length) (hlen : g.length ≤ 5) :
    pack g = [packGroup g] := by
  match g, hpos, hlen with
  | [_], _, _ => rfl
  | [_, _], _, _ => rfl
  | [_, _, _], _, _ => rfl
  | [_, _, _, _], _, _ => rfl
  | [_, _, _, _, _], _, _ => rfl

/-! ## Reading what was packed -/

theorem unpackFrom_cons {x : UInt8} (hx : IsGroup x) (position : Nat) (bs : Bytes)
    {places : Trits} (hplaces : places ≠ []) :
    unpackFrom position (x :: bs) places =
      (unpackFrom (position + 1) bs (places.drop 5)).map
        (Balanced.digits (min 5 places.length) (SignedByte.value x) ++ ·) := by
  cases places with
  | nil => exact absurd rfl hplaces
  | cons p ps =>
    rw [unpackFrom, if_pos hx]
    · cases unpackFrom (position + 1) bs ((p :: ps).drop 5) <;> rfl
    · exact List.cons_ne_nil p ps

/-- One group is read back, and the others after it. -/
theorem unpackFrom_packGroup {g : Trits} (hg : g.Balanced) (hlen : g.length ≤ 5) (position : Nat)
    (bs : Bytes) {places : Trits} (hplaces : places ≠ []) (hmin : min 5 places.length = g.length) :
    unpackFrom position (packGroup g :: bs) places =
      (unpackFrom (position + 1) bs (places.drop 5)).map (g ++ ·) := by
  rw [unpackFrom_cons (isGroup_packGroup hg hlen) position bs hplaces, hmin,
    value_packGroup hg hlen, Balanced.digits_value hg]

/-- Balanced trits are read back as they were. -/
theorem unpackFrom_pack {ts : Trits} (h : ts.Balanced) (position : Nat) {places : Trits}
    (hlen : places.length = ts.length) : unpackFrom position (pack ts) places = .ok ts := by
  fun_induction pack ts generalizing position places with
  | case1 a b c d e rest ih =>
    have hsplit : Trits.Balanced ([a, b, c, d, e] ++ rest) := h
    have hgroup : Trits.Balanced [a, b, c, d, e] := fun x hx =>
      hsplit x (List.mem_append_left rest hx)
    have hrest : Trits.Balanced rest := fun x hx =>
      hsplit x (List.mem_append_right [a, b, c, d, e] hx)
    have hplaces : places ≠ [] := List.ne_nil_of_length_eq_add_one hlen
    simp only [List.length_cons] at hlen
    rw [unpackFrom_packGroup hgroup (Nat.le_refl 5) position (pack rest) hplaces
        (by simp only [List.length_cons, List.length_nil]; omega),
      ih hrest (position + 1) (by rw [List.length_drop]; omega)]
    rfl
  | case2 =>
    rw [List.length_eq_zero_iff.mp hlen]
    rfl
  | case3 group hshort hne =>
    -- a last group has one to four trits
    have hpos : 0 < group.length := List.length_pos_iff.mpr hne
    have hle : group.length < 5 := by
      rcases group with _ | ⟨a, _ | ⟨b, _ | ⟨c, _ | ⟨d, _ | ⟨e, rest⟩⟩⟩⟩⟩
      · decide
      · simp
      · simp
      · simp
      · simp
      · exact absurd rfl (hshort a b c d e rest)
    have hplaces : places ≠ [] := List.ne_nil_of_length_pos (by omega)
    have hdrop : places.drop 5 = [] := List.drop_eq_nil_of_le (by omega)
    rw [unpackFrom_packGroup h (by omega) position [] hplaces (by omega), hdrop]
    simp [unpackFrom, Except.map]

theorem unpack_pack {ts : Trits} (h : ts.Balanced) : unpack ts.length (pack ts) = .ok ts :=
  unpackFrom_pack h 0 List.length_replicate

/-! ## Packing what was read -/

/-- What is packed once `n` places were read: each byte with as many of its
    digits as there are places for it. -/
def repack : Nat → Bytes → Bytes
  | _, [] => []
  | n, x :: bs => packGroup (Balanced.digits (min 5 n) (SignedByte.value x)) :: repack (n - 5) bs

/-- As many bytes as the places need are read if each is a group. -/
theorem unpackFrom_ok_iff {position : Nat} {b : Bytes} {places : Trits}
    (hlen : b.length = (places.length + 4) / 5) :
    (∃ ts, unpackFrom position b places = .ok ts) ↔ Valid b := by
  induction b generalizing position places with
  | nil => simp [unpackFrom, Valid]
  | cons x bs ih =>
    rw [List.length_cons] at hlen
    have hplaces : places ≠ [] := by
      rintro rfl
      simp at hlen
    have hlen' : bs.length = ((places.drop 5).length + 4) / 5 := by
      rw [List.length_drop]
      omega
    have hrest : (∃ ts, unpackFrom (position + 1) bs (places.drop 5) = .ok ts) ↔ Valid bs :=
      ih hlen'
    have hvalid : Valid (x :: bs) ↔ IsGroup x ∧ Valid bs := List.forall_mem_cons
    rw [hvalid, ← hrest]
    by_cases hx : IsGroup x
    · rw [unpackFrom_cons hx position bs hplaces]
      cases unpackFrom (position + 1) bs (places.drop 5) <;> simp [Except.map, hx]
    · simp [unpackFrom, hx]

/-- Packing the trits that were read gives each byte again, without the
    digits that found no place. -/
theorem pack_unpackFrom {position : Nat} {b : Bytes} {places ts : Trits}
    (hlen : b.length = (places.length + 4) / 5) (h : unpackFrom position b places = .ok ts) :
    pack ts = repack places.length b := by
  induction b generalizing position places ts with
  | nil =>
    rw [List.length_nil] at hlen
    obtain rfl : places = [] := List.length_eq_zero_iff.mp (by omega)
    cases h
    rfl
  | cons x bs ih =>
    have hx : IsGroup x := (unpackFrom_ok_iff hlen).mp ⟨ts, h⟩ x List.mem_cons_self
    rw [List.length_cons] at hlen
    have hplaces : places ≠ [] := by
      rintro rfl
      simp at hlen
    rw [unpackFrom_cons hx position bs hplaces] at h
    cases hr : unpackFrom (position + 1) bs (places.drop 5) with
    | error e => rw [hr] at h; cases h
    | ok rest =>
      rw [hr] at h
      cases h
      have hrest := ih (by rw [List.length_drop]; omega) hr
      rw [List.length_drop] at hrest
      rw [repack, ← hrest]
      by_cases hfull : 5 ≤ places.length
      · exact pack_append (by rw [Balanced.length_digits]; omega) rest
      · -- the last group is followed by nothing
        have hnone : rest = [] := by
          have := length_of_unpackFrom hr
          rw [List.length_drop] at this
          exact List.length_eq_zero_iff.mp (by omega)
        have hpos : 0 < places.length := List.length_pos_iff.mpr hplaces
        simp only [hnone, List.append_nil]
        exact pack_of_length (by rw [Balanced.length_digits]; omega)
          (by rw [Balanced.length_digits]; omega)

theorem unpack_ok_iff {n : Nat} {b : Bytes} (hlen : b.length = (n + 4) / 5) :
    (∃ ts, unpack n b = .ok ts) ↔ Valid b :=
  unpackFrom_ok_iff (by rw [List.length_replicate, hlen])

/-- What is packed from balanced trits is valid. -/
theorem valid_pack {ts : Trits} (h : ts.Balanced) : Valid (pack ts) :=
  (unpack_ok_iff (length_pack ts)).mp ⟨ts, unpack_pack h⟩

theorem pack_unpack {n : Nat} {b : Bytes} {ts : Trits} (hlen : b.length = (n + 4) / 5)
    (h : unpack n b = .ok ts) : pack ts = repack n b := by
  have hpack := pack_unpackFrom (by rw [List.length_replicate, hlen]) h
  rwa [List.length_replicate] at hpack

/-- Full groups are packed again as they were, and of the last byte the
    digits that were read. -/
theorem repack_concat {r : Nat} (hpos : 0 < r) (hle : r ≤ 5) {front : Bytes} (h : Valid front)
    (x : UInt8) :
    repack (5 * front.length + r) (front ++ [x]) =
      front ++ [packGroup (Balanced.digits r (SignedByte.value x))] := by
  induction front with
  | nil =>
    rw [List.length_nil, Nat.mul_zero, Nat.zero_add, List.nil_append, List.nil_append, repack,
      Nat.min_eq_right hle, repack]
  | cons y front ih =>
    have hy : IsGroup y := h y List.mem_cons_self
    have hrest := ih fun z hz => h z (List.mem_cons_of_mem y hz)
    have hmin : min 5 (5 * (front.length + 1) + r) = 5 := by omega
    have hsub : 5 * (front.length + 1) + r - 5 = 5 * front.length + r := by omega
    rw [List.length_cons, List.cons_append, repack, hmin, hsub, hrest, packGroup_digits hy,
      List.cons_append]

/-- What is read into balanced places is balanced. -/
theorem balanced_of_unpackFrom {position : Nat} {b : Bytes} {places ts : Trits}
    (hplaces : places.Balanced) (h : unpackFrom position b places = .ok ts) : ts.Balanced := by
  induction b generalizing position places ts with
  | nil =>
    cases h
    exact hplaces
  | cons x bs ih =>
    cases places with
    | nil =>
      cases h
      exact hplaces
    | cons p ps =>
      by_cases hx : IsGroup x
      · rw [unpackFrom_cons hx position bs (List.cons_ne_nil p ps)] at h
        cases hr : unpackFrom (position + 1) bs ((p :: ps).drop 5) with
        | error e => rw [hr] at h; cases h
        | ok rest =>
          rw [hr] at h
          cases h
          have hrest := ih (fun t ht => hplaces t (List.mem_of_mem_drop ht)) hr
          intro t ht
          rcases List.mem_append.mp ht with ht | ht
          · exact Balanced.balanced_digits _ _ t ht
          · exact hrest t ht
      · simp [unpackFrom, hx] at h

theorem balanced_of_unpack {n : Nat} {b : Bytes} {ts : Trits} (h : unpack n b = .ok ts) :
    ts.Balanced := by
  refine balanced_of_unpackFrom ?_ h
  intro t ht
  rw [List.eq_of_mem_replicate ht]
  decide

end Packed

end TernaryGossip
