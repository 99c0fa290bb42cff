import TernaryGossip.Bytes

/-!
# Reading UTF-8

    A byte sequence is cut into pieces: well-formed characters, ill-formed
    parts, and possibly a character that the end of the sequence cuts off.
    An ill-formed part is as long as it could still have been the beginning
    of a character, at least one byte; the byte that ruled this out starts
    the next piece.

    The strict reader accepts only characters and otherwise says where the
    first other piece is.  The lenient reader puts U+FFFD in its place.
-/

namespace TernaryGossip.Utf8

/-- One piece of a byte sequence. -/
inductive Piece
  /-- A well-formed character of `size` bytes. -/
  | char (c : Char) (size : Nat)
  /-- `size` bytes that are not the beginning of any character. -/
  | malformed (size : Nat)
  /-- The first bytes of a character, at the end of the sequence. -/
  | cut
  deriving DecidableEq

/-- The bytes that a begun character still needs. -/
structure Pending where
  /-- How many more bytes are owed. -/
  owed : Nat
  /-- The least value of the next byte. -/
  low : Nat
  /-- The greatest value of the next byte. -/
  high : Nat
  /-- The number read so far. -/
  code : Nat
  /-- How many bytes were read. -/
  size : Nat

/-- What the first byte of a piece says. -/
inductive Lead
  /-- The byte is a character. -/
  | whole (c : Char)
  /-- The byte begins a longer character. -/
  | begun (p : Pending)
  /-- The byte begins nothing. -/
  | stray

/-- Reads the first byte of a piece. -/
def lead (b : Nat) : Lead :=
  if b ≤ 0x7f then .whole (Char.ofNat b)
  else if 0xc2 ≤ b ∧ b ≤ 0xdf then .begun ⟨1, 0x80, 0xbf, b - 0xc0, 1⟩
  else if 0xe0 ≤ b ∧ b ≤ 0xef then
    .begun ⟨2, if b = 0xe0 then 0xa0 else 0x80, if b = 0xed then 0x9f else 0xbf, b - 0xe0, 1⟩
  else if 0xf0 ≤ b ∧ b ≤ 0xf4 then
    .begun ⟨3, if b = 0xf0 then 0x90 else 0x80, if b = 0xf4 then 0x8f else 0xbf, b - 0xf0, 1⟩
  else .stray

/-- The pieces of a byte sequence, after a begun character if any. -/
def pieces : Option Pending → Bytes → List Piece
  | none, [] => []
  | some _, [] => [.cut]
  | none, b :: bs =>
      match lead b.toNat with
      | .whole c => .char c 1 :: pieces none bs
      | .begun p => pieces (some p) bs
      | .stray => .malformed 1 :: pieces none bs
  | some p, b :: bs =>
      if p.low ≤ b.toNat ∧ b.toNat ≤ p.high then
        let code := 64 * p.code + (b.toNat - 0x80)
        if p.owed = 1 then .char (Char.ofNat code) (p.size + 1) :: pieces none bs
        else pieces (some ⟨p.owed - 1, 0x80, 0xbf, code, p.size + 1⟩) bs
      else
        .malformed p.size ::
          match lead b.toNat with
          | .whole c => .char c 1 :: pieces none bs
          | .begun q => pieces (some q) bs
          | .stray => .malformed 1 :: pieces none bs

/-- Where and how a byte sequence stops being UTF-8. -/
inductive Fault
  /-- `size` malformed bytes after `position` well-formed ones. -/
  | malformed (size position : Nat)
  /-- The sequence ends inside of a character that starts at `position`. -/
  | cut (position : Nat)
  deriving DecidableEq, Repr

/-- The text shown for a fault. -/
def Fault.message : Fault → String
  | .malformed size position => s!"invalid utf-8 sequence of {size} bytes from index {position}"
  | .cut position => s!"incomplete utf-8 byte sequence from index {position}"

/-- The characters of pieces that are all characters. -/
def strict (position : Nat) : List Piece → Except Fault (List Char)
  | [] => .ok []
  | .char c size :: ps => do
      let cs ← strict (position + size) ps
      return c :: cs
  | .malformed size :: _ => .error (.malformed size position)
  | .cut :: _ => .error (.cut position)

/-- Reads a byte sequence that has to be UTF-8. -/
def read (b : Bytes) : Except Fault String := (strict 0 (pieces none b)).map String.ofList

/-- The character shown for a piece. -/
def Piece.shown : Piece → Char
  | .char c _ => c
  | .malformed _ => '\uFFFD'
  | .cut => '\uFFFD'

/-- Reads any byte sequence; U+FFFD stands for what is not UTF-8. -/
def readLenient (b : Bytes) : String := String.ofList ((pieces none b).map Piece.shown)

end TernaryGossip.Utf8
