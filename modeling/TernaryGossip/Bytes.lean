/-!
# Byte strings

    Payloads, keys, packets and stored values are finite sequences of bytes.
    This module holds the type, the hexadecimal text of a byte string, the
    signed reading of a byte, cutting and padding to a fixed size, and
    fixed-width integers with the least significant byte first.

    Byte strings are ordered by their first differing byte (read unsigned);
    a proper prefix comes before its extensions.  This is the order in which
    a store keeps its keys.
-/

namespace TernaryGossip

/-- A finite sequence of bytes. -/
abbrev Bytes := List UInt8

/-! ## Signed bytes -/

namespace SignedByte

/-- A byte read as a signed number in `-128 .. 127`. -/
def value (b : UInt8) : Int :=
  if b.toNat < 128 then b.toNat else (b.toNat : Int) - 256

/-- The byte whose signed reading is congruent to `v` modulo 256. -/
def wrap (v : Int) : UInt8 := UInt8.ofNat (v % 256).toNat

@[simp] theorem wrap_value (b : UInt8) : wrap (value b) = b := by
  have h := b.toNat_lt
  apply UInt8.toNat_inj.mp
  unfold wrap value
  split <;> simp [UInt8.toNat_ofNat'] <;> omega

theorem value_inj {x y : UInt8} : value x = value y ↔ x = y := by
  constructor
  · intro heq
    rw [← wrap_value x, ← wrap_value y, heq]
  · rintro rfl
    rfl

theorem value_wrap {v : Int} (h₁ : -128 ≤ v) (h₂ : v < 128) : value (wrap v) = v := by
  have : (wrap v).toNat = (v % 256).toNat := by
    unfold wrap; rw [UInt8.toNat_ofNat']; omega
  unfold value; rw [this]; split <;> omega

end SignedByte

namespace Bytes

/-! ## Fixed size -/

/-- The first `n` bytes, followed by zeros where there are fewer. -/
def fit (n : Nat) (b : Bytes) : Bytes :=
  b.take n ++ List.replicate (n - b.length) 0

@[simp] theorem length_fit (n : Nat) (b : Bytes) : (fit n b).length = n := by
  simp [fit]; omega

theorem fit_of_length {n : Nat} {b : Bytes} (h : b.length = n) : fit n b = b := by
  simp [fit, ← h]

/-- The UTF-8 bytes of a text. -/
def ofText (s : String) : Bytes := s.toUTF8.toList

/-! ## Hexadecimal text -/

/-- The lower-case hexadecimal digit of a number below 16. -/
def hexDigit (n : Nat) : Char :=
  if n < 10 then Char.ofNat (48 + n) else Char.ofNat (87 + n)

/-- Two lower-case hexadecimal digits per byte. -/
def toHex (b : Bytes) : String :=
  String.ofList (b.flatMap fun x => [hexDigit (x.toNat / 16), hexDigit (x.toNat % 16)])

/-- The value of a hexadecimal digit of either case. -/
def hexValue? (c : Char) : Option Nat :=
  if '0' ≤ c ∧ c ≤ '9' then some (c.toNat - 48)
  else if 'a' ≤ c ∧ c ≤ 'f' then some (c.toNat - 87)
  else if 'A' ≤ c ∧ c ≤ 'F' then some (c.toNat - 55)
  else none

/-- Reads pairs of hexadecimal digits. -/
def ofHexDigits? : List Char → Option Bytes
  | [] => some []
  | [_] => none
  | a :: b :: rest => do
      let hi ← hexValue? a
      let lo ← hexValue? b
      let tail ← ofHexDigits? rest
      return UInt8.ofNat (16 * hi + lo) :: tail

/-- Reads a text of an even number of hexadecimal digits. -/
def ofHex? (s : String) : Option Bytes := ofHexDigits? s.toList

/-! ## Integers of fixed width -/

/-- The `width` bytes of `n` modulo `256 ^ width`, least significant first. -/
def littleEndian : Nat → Nat → Bytes
  | 0, _ => []
  | width + 1, n => UInt8.ofNat (n % 256) :: littleEndian width (n / 256)

/-- The number whose bytes, least significant first, are given. -/
def ofLittleEndian : Bytes → Nat
  | [] => 0
  | b :: bs => b.toNat + 256 * ofLittleEndian bs

@[simp] theorem length_littleEndian (width n : Nat) : (littleEndian width n).length = width := by
  induction width generalizing n with
  | zero => rfl
  | succ width ih => simp [littleEndian, ih]

theorem ofLittleEndian_littleEndian (width n : Nat) :
    ofLittleEndian (littleEndian width n) = n % Nat.pow 256 width := by
  induction width generalizing n with
  | zero => simp [littleEndian, ofLittleEndian, Nat.mod_one]
  | succ width ih =>
    have hpow : Nat.pow 256 (width + 1) = 256 * Nat.pow 256 width := Nat.pow_succ'
    rw [littleEndian, ofLittleEndian, ih, hpow, Nat.mod_mul, UInt8.toNat_ofNat']
    omega

/-- The `width` bytes of `n` modulo `256 ^ width`, most significant first. -/
def bigEndian (width n : Nat) : Bytes := (littleEndian width n).reverse

/-- The number whose bytes, most significant first, are given. -/
def ofBigEndian (b : Bytes) : Nat := ofLittleEndian b.reverse

@[simp] theorem length_bigEndian (width n : Nat) : (bigEndian width n).length = width := by
  simp [bigEndian]

theorem ofBigEndian_bigEndian (width n : Nat) :
    ofBigEndian (bigEndian width n) = n % Nat.pow 256 width := by
  simp [ofBigEndian, bigEndian, ofLittleEndian_littleEndian]

end Bytes

end TernaryGossip
