import TernaryGossip.Digest.Blake3
import TernaryGossip.Trit.Packed
import TernaryGossip.Trit.Tryte

/-!
# Hashes

    A hash names a transaction, an address, a bundle, a tag or a parent.  It
    is 243 trits packed in 49 bytes, and the last byte holds three of them.
    The hash of all zeros is the null hash: it refers to nothing.

    A hash may also hold bytes that are not packed trits, for instance when
    it was copied out of a packet; such a hash is not `Valid`, has no tryte
    text, and weighs nothing.

    Hashes are ordered as byte strings.  `succ` and `pred` step along that
    order and stay where they are at its two ends.
-/

namespace TernaryGossip

/-- 49 bytes that name something. -/
structure Hash where
  /-- The packed trits. -/
  bytes : Bytes
  /-- A hash has 49 bytes. -/
  length_bytes : bytes.length = 49
  deriving DecidableEq

namespace Hash

theorem eq_of_bytes_eq {a b : Hash} (h : a.bytes = b.bytes) : a = b := by
  cases a; cases b; simp_all

/-! ## Making hashes -/

/-- The first 49 bytes, with zeros where there are fewer. -/
def ofBytes (b : Bytes) : Hash := ⟨Bytes.fit 49 b, Bytes.length_fit 49 b⟩

@[simp] theorem ofBytes_bytes (h : Hash) : ofBytes h.bytes = h :=
  eq_of_bytes_eq (Bytes.fit_of_length h.length_bytes)

/-- The null hash. -/
def null : Hash := ofBytes []

instance : Inhabited Hash := ⟨null⟩

/-- The hash of the first 243 trits; missing trits are zero. -/
def ofTrits (ts : Trits) : Hash := ofBytes (Packed.pack (ts.take 243))

/-- The hash of a tryte text of 81 trytes.  The length is checked first, on
the UTF-8 form of the text. -/
def ofTrytes (s : String) : Except TritError Hash :=
  if s.utf8ByteSize = 81 then do
    let ts ← Tryte.read s
    return ofTrits ts
  else
    .error (.invalidLength 81 s.utf8ByteSize)

/-- The trits squeezed out of the digest of a message: 243 bytes, each
reduced modulo three. -/
def squeezeTrits (message : Bytes) : Trits :=
  (Blake3.squeeze 243 message).map fun b => (b.toNat % 3 : Nat) - 1

/-- The identity hash of a sequence of trits. -/
def identity (ts : Trits) : Hash := ofTrits (squeezeTrits (Packed.pack ts))

/-! ## Reading hashes -/

/-- The hash refers to nothing. -/
def isNull (h : Hash) : Bool := h.bytes.all (· == 0)

/-- Every byte is a packed group of trits. -/
def Valid (h : Hash) : Prop := Packed.Valid h.bytes

instance (h : Hash) : Decidable h.Valid := inferInstanceAs (Decidable (Packed.Valid _))

/-- The 243 trits. -/
def trits (h : Hash) : Except TritError Trits := Packed.unpack 243 h.bytes

/-- The text of a hash: its 81 trytes, or hexadecimal when it is not valid. -/
def toTrytes (h : Hash) : String :=
  match h.trits >>= Tryte.write with
  | .ok text => text
  | .error _ => Bytes.toHex h.bytes

/-- The number of zero trits at the end: the proof of work in the hash.  A
hash that is not valid scores zero. -/
def weight (h : Hash) : Nat :=
  match h.trits with
  | .ok ts => (ts.reverse.takeWhile (· == 0)).length
  | .error _ => 0

/-- The short form of a hash in messages: its first 16 characters. -/
def shortForm (h : Hash) : String := "Hash(" ++ String.ofList (h.toTrytes.toList.take 16) ++ "..)"

/-! ## Order -/

instance : Ord Hash := ⟨fun a b => compare a.bytes b.bytes⟩

theorem compare_def (a b : Hash) : compare a b = compare a.bytes b.bytes := rfl

instance : Std.TransOrd Hash where
  eq_swap {a b} := Std.OrientedOrd.eq_swap (a := a.bytes) (b := b.bytes)
  isLE_trans {a b c} hab hbc :=
    Std.TransOrd.isLE_trans (a := a.bytes) (b := b.bytes) (c := c.bytes) hab hbc

instance : Std.LawfulEqOrd Hash where
  compare_self {a} := Std.ReflOrd.compare_self (a := a.bytes)
  eq_of_compare {a b} h :=
    eq_of_bytes_eq (Std.LawfulEqOrd.eq_of_compare (a := a.bytes) (b := b.bytes) h)

/-- The next byte string of the same length, or `none` after the last. -/
def succBytes? : Bytes → Option Bytes
  | [] => none
  | b :: bs =>
      match succBytes? bs with
      | some bs => some (b :: bs)
      | none => if b = 255 then none else some ((b + 1) :: List.replicate bs.length 0)

/-- The previous byte string of the same length, or `none` before the first. -/
def predBytes? : Bytes → Option Bytes
  | [] => none
  | b :: bs =>
      match predBytes? bs with
      | some bs => some (b :: bs)
      | none => if b = 0 then none else some ((b - 1) :: List.replicate bs.length 255)

theorem length_of_succBytes? {b c : Bytes} (h : succBytes? b = some c) : c.length = b.length := by
  induction b generalizing c with
  | nil => simp [succBytes?] at h
  | cons x bs ih =>
    cases hs : succBytes? bs with
    | some d => simp [succBytes?, hs] at h; simp [← h, ih hs]
    | none =>
      simp only [succBytes?, hs] at h
      split at h
      · simp at h
      · simp at h; simp [← h]

theorem length_of_predBytes? {b c : Bytes} (h : predBytes? b = some c) : c.length = b.length := by
  induction b generalizing c with
  | nil => simp [predBytes?] at h
  | cons x bs ih =>
    cases hs : predBytes? bs with
    | some d => simp [predBytes?, hs] at h; simp [← h, ih hs]
    | none =>
      simp only [predBytes?, hs] at h
      split at h
      · simp at h
      · simp at h; simp [← h]

/-- The next hash; the last one is its own successor. -/
def succ (h : Hash) : Hash :=
  match hs : succBytes? h.bytes with
  | some b => ⟨b, by rw [length_of_succBytes? hs]; exact h.length_bytes⟩
  | none => h

/-- The previous hash; the first one is its own predecessor. -/
def pred (h : Hash) : Hash :=
  match hs : predBytes? h.bytes with
  | some b => ⟨b, by rw [length_of_predBytes? hs]; exact h.length_bytes⟩
  | none => h

end Hash

end TernaryGossip
