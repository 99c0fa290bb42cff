import Mathlib.Algebra.GroupWithZero.Nat
import TernaryGossip.Proofs.Store.Prefix
import TernaryGossip.Proofs.Text.Utf8

/-! # The order of keys

    A byte string writes a number, most significant byte in front.  Equally
    long byte strings are ordered as the numbers that they write
    (`compare_ofBigEndian`), and numbers that fit are ordered as the byte
    strings that write them (`compare_bigEndian`).

    So the keys of numbers are ordered as the numbers are, and the order of
    byte strings is the lexicographic one (`compare_eq_lt_iff`). -/

namespace TernaryGossip

namespace Bytes

/-! ## The bytes of a number -/

theorem bigEndian_succ (width n : Nat) :
    bigEndian (width + 1) n = bigEndian width (n / 256) ++ [UInt8.ofNat (n % 256)] := by
  rw [bigEndian, littleEndian, List.reverse_cons, bigEndian]

theorem compare_ofNat {x y : Nat} (hx : x < 256) (hy : y < 256) :
    compare [UInt8.ofNat x] [UInt8.ofNat y] = compare x y := by
  rw [compare_cons, UInt8.compare_eq_toNat_compare_toNat, toNat_ofNat hx, toNat_ofNat hy]
  exact Ordering.then_eq

/-- Numbers are compared by their quotients, and if these are equal by what
    is left. -/
theorem compare_div_mod (a b : Nat) :
    (compare (a / 256) (b / 256)).then (compare (a % 256) (b % 256)) = compare a b := by
  rcases Nat.lt_trichotomy (a / 256) (b / 256) with hlt | heq | hgt
  · have hab : a < b := by omega
    rw [Nat.compare_eq_lt.mpr hlt, Nat.compare_eq_lt.mpr hab, Ordering.lt_then]
  · have hlt : a % 256 < b % 256 ↔ a < b := by omega
    have hgt : b % 256 < a % 256 ↔ b < a := by omega
    rw [heq, Std.ReflOrd.compare_self, Ordering.eq_then, Nat.compare_eq_ite_lt,
      Nat.compare_eq_ite_lt]
    simp only [hlt, hgt]
  · have hba : b < a := by omega
    rw [Nat.compare_eq_gt.mpr hgt, Nat.compare_eq_gt.mpr hba, Ordering.gt_then]

/-- Numbers that fit are ordered as their bytes are. -/
theorem compare_bigEndian {width a b : Nat} (ha : a < 256 ^ width) (hb : b < 256 ^ width) :
    compare (bigEndian width a) (bigEndian width b) = compare a b := by
  induction width generalizing a b with
  | zero =>
    have hzero : a = b := by omega
    rw [hzero, Std.ReflOrd.compare_self, Std.ReflOrd.compare_self]
  | succ width ih =>
    rw [Nat.pow_succ, Nat.mul_comm] at ha hb
    rw [bigEndian_succ, bigEndian_succ, compare_append (by simp),
      ih (Nat.div_lt_of_lt_mul ha) (Nat.div_lt_of_lt_mul hb),
      compare_ofNat (Nat.mod_lt a (by decide)) (Nat.mod_lt b (by decide)), compare_div_mod]

/-! ## One byte -/

theorem toNat_add_one {x : UInt8} (hx : x ≠ 255) : (x + 1).toNat = x.toNat + 1 := by
  have hlt := x.toNat_lt
  have hne : x.toNat ≠ 255 := fun heq => hx (UInt8.toNat_inj.mp heq)
  rw [UInt8.toNat_add]
  exact Nat.mod_eq_of_lt (show x.toNat + 1 < 256 by omega)

theorem toNat_sub_one {x : UInt8} (hx : x ≠ 0) : (x - 1).toNat + 1 = x.toNat := by
  have hpos : 1 ≤ x.toNat := Nat.pos_of_ne_zero fun heq => hx (UInt8.toNat_inj.mp heq)
  rw [UInt8.toNat_sub_of_le x 1 (UInt8.le_iff_toNat_le.mpr hpos)]
  exact Nat.sub_add_cancel hpos

/-! ## The number of a byte string -/

theorem ofLittleEndian_append (a b : Bytes) :
    ofLittleEndian (a ++ b) = ofLittleEndian a + 256 ^ a.length * ofLittleEndian b := by
  induction a with
  | nil => simp [ofLittleEndian]
  | cons x a ih =>
    rw [List.cons_append, ofLittleEndian, ofLittleEndian, ih, List.length_cons, Nat.pow_succ',
      Nat.mul_add, Nat.mul_assoc, Nat.add_assoc]

/-- The first byte counts as often as there are byte strings of the length
    of the others. -/
theorem ofBigEndian_cons (x : UInt8) (b : Bytes) :
    ofBigEndian (x :: b) = ofBigEndian b + 256 ^ b.length * x.toNat := by
  unfold ofBigEndian
  rw [List.reverse_cons, ofLittleEndian_append, List.length_reverse]
  rfl

theorem ofBigEndian_lt (b : Bytes) : ofBigEndian b < 256 ^ b.length := by
  induction b with
  | nil => decide
  | cons x b ih =>
    have hx : x.toNat + 1 ≤ 256 := x.toNat_lt
    calc ofBigEndian (x :: b) = ofBigEndian b + 256 ^ b.length * x.toNat := ofBigEndian_cons x b
      _ < 256 ^ b.length * (x.toNat + 1) := by rw [Nat.mul_succ]; omega
      _ ≤ 256 ^ b.length * 256 := Nat.mul_le_mul_left _ hx
      _ = 256 ^ (x :: b).length := by rw [List.length_cons, Nat.pow_succ]

theorem littleEndian_ofLittleEndian (b : Bytes) :
    littleEndian b.length (ofLittleEndian b) = b := by
  induction b with
  | nil => rfl
  | cons x b ih =>
    have hx := x.toNat_lt
    have hlow : (x.toNat + 256 * ofLittleEndian b) % 256 = x.toNat := by omega
    have hhigh : (x.toNat + 256 * ofLittleEndian b) / 256 = ofLittleEndian b := by omega
    rw [List.length_cons, ofLittleEndian, littleEndian, hlow, hhigh, ih, UInt8.ofNat_toNat]

/-- A byte string is the one that writes its number. -/
theorem bigEndian_ofBigEndian (b : Bytes) : bigEndian b.length (ofBigEndian b) = b := by
  unfold bigEndian ofBigEndian
  rw [← List.length_reverse, littleEndian_ofLittleEndian, List.reverse_reverse]

/-- Equally long byte strings are ordered as their numbers are. -/
theorem compare_ofBigEndian {a b : Bytes} (hlen : a.length = b.length) :
    compare (ofBigEndian a) (ofBigEndian b) = compare a b := by
  have ha : ofBigEndian a < 256 ^ a.length := ofBigEndian_lt a
  have hb : ofBigEndian b < 256 ^ a.length := by rw [hlen]; exact ofBigEndian_lt b
  calc compare (ofBigEndian a) (ofBigEndian b)
      = compare (bigEndian a.length (ofBigEndian a)) (bigEndian a.length (ofBigEndian b)) :=
        (compare_bigEndian ha hb).symm
    _ = compare a b := by rw [bigEndian_ofBigEndian, hlen, bigEndian_ofBigEndian]

theorem ofBigEndian_replicate_zero (n : Nat) : ofBigEndian (List.replicate n 0) = 0 := by
  induction n with
  | zero => rfl
  | succ n ih =>
    rw [List.replicate_succ, ofBigEndian_cons, ih]
    rfl

/-- The byte string of greatest bytes writes the greatest number. -/
theorem ofBigEndian_replicate_greatest (n : Nat) :
    ofBigEndian (List.replicate n 255) + 1 = 256 ^ n := by
  induction n with
  | zero => rfl
  | succ n ih =>
    have hbyte : (255 : UInt8).toNat = 255 := rfl
    rw [List.replicate_succ, ofBigEndian_cons, List.length_replicate, hbyte, Nat.pow_succ]
    omega

/-! ## The lexicographic order -/

/-- A byte string comes before another one if it is a proper beginning of it
    or has the lesser byte where the two differ first. -/
theorem compare_eq_lt_iff (a b : Bytes) : compare a b = .lt ↔ a < b := by
  induction a generalizing b with
  | nil =>
    cases b with
    | nil => simp
    | cons y b => simp
  | cons x a ih =>
    cases b with
    | nil => simp
    | cons y b =>
      rw [compare_cons, Ordering.then_eq_lt, List.cons_lt_cons_iff, Std.compare_eq_lt,
        Std.LawfulEqOrd.compare_eq_iff_eq, ih]

end Bytes

/-! ## The keys of numbers -/

namespace Key

theorem compare_ofIndex (i j : UInt32) :
    compare (ofIndex i) (ofIndex j) = compare i.toNat j.toNat :=
  Bytes.compare_bigEndian i.toNat_lt j.toNat_lt

theorem ofIndex_inj {i j : UInt32} : ofIndex i = ofIndex j ↔ i = j := by
  constructor
  · intro h
    have hindex := congrArg index? h
    rw [index?_ofIndex, index?_ofIndex] at hindex
    exact Option.some.inj hindex
  · rintro rfl
    rfl

theorem ofIndex_lt_iff (i j : UInt32) : compare (ofIndex i) (ofIndex j) = .lt ↔ i < j := by
  rw [compare_ofIndex, Nat.compare_eq_lt, UInt32.lt_iff_toNat_lt]

end Key

end TernaryGossip
