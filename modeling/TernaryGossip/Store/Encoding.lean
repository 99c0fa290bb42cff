import TernaryGossip.Store.Error

/-!
# The form of stored records

    Numbers have a fixed width and stand with the least significant byte
    first.  Byte strings and texts follow their length, which takes eight
    bytes, and so do lists follow the number of their items.  A hash is
    stored as its text.

    A reader takes what it needs from the front and leaves the rest; bytes
    after a record are not looked at.
-/

namespace TernaryGossip

/-! ## Writing -/

namespace Encoding

/-- A natural number in `width` bytes. -/
def natural (width n : Nat) : Bytes := Bytes.littleEndian width n

/-- A truth value. -/
def truth (b : Bool) : Bytes := [if b then 1 else 0]

/-- A byte string. -/
def blob (b : Bytes) : Bytes := natural 8 b.length ++ b

/-- A text. -/
def text (s : String) : Bytes := blob (Bytes.ofText s)

/-- A hash. -/
def hash (h : Hash) : Bytes := text h.toTrytes

/-- A list. -/
def list {α : Type} (item : α → Bytes) (xs : List α) : Bytes :=
  natural 8 xs.length ++ xs.flatMap item

end Encoding

/-! ## Reading -/

/-- Takes a value from the front of a byte string. -/
abbrev Reader (α : Type) := StateT Bytes (Except DecodeError) α

namespace Reader

/-- Takes `n` bytes; `short` is reported when there are fewer. -/
def take (n : Nat) (short : DecodeError) : Reader Bytes := fun b =>
  if n ≤ b.length then .ok (b.take n, b.drop n) else .error short

/-- A natural number in `width` bytes. -/
def natural (width : Nat) : Reader Nat := do
  let b ← take width .endOfInput
  return Bytes.ofLittleEndian b

/-- A truth value. -/
def truth : Reader Bool := do
  let n ← natural 1
  if n = 0 then return false
  else if n = 1 then return true
  else throw (.notTruth n)

/-- A byte string. -/
def blob : Reader Bytes := do
  let n ← natural 8
  take n .endOfInput

/-- A text. -/
def text : Reader String := do
  let n ← natural 8
  let b ← take n .endOfText
  match Utf8.read b with
  | .ok s => return s
  | .error fault => throw (.text fault)

/-- A hash. -/
def hash : Reader Hash := do
  let s ← text
  match Hash.ofTrytes s with
  | .ok h => return h
  | .error cause => throw (.hash cause)

/-- `n` values of one kind. -/
def times {α : Type} (item : Reader α) : Nat → Reader (List α)
  | 0 => return []
  | n + 1 => do
      let x ← item
      let xs ← times item n
      return x :: xs

/-- A list. -/
def list {α : Type} (item : Reader α) : Reader (List α) := do
  let n ← natural 8
  times item n

/-- Reads a record. -/
def run {α : Type} (item : Reader α) (b : Bytes) : Except StorageError α :=
  match item b with
  | .ok (x, _) => .ok x
  | .error cause => .error (.record cause)

/-! ## What was written is read back -/

theorem take_append {n : Nat} {b : Bytes} (rest : Bytes) (short : DecodeError) (h : b.length = n) :
    take n short (b ++ rest) = .ok (b, rest) := by
  subst h
  simp [take]

theorem natural_append (width n : Nat) (rest : Bytes) :
    natural width (Encoding.natural width n ++ rest) = .ok (n % Nat.pow 256 width, rest) := by
  have h := take_append rest .endOfInput (Bytes.length_littleEndian width n)
  show (Except.bind (take width .endOfInput (Bytes.littleEndian width n ++ rest)) fun p =>
    .ok (Bytes.ofLittleEndian p.1, p.2)) = _
  rw [h]
  show Except.ok (Bytes.ofLittleEndian (Bytes.littleEndian width n), rest) = _
  rw [Bytes.ofLittleEndian_littleEndian]

end Reader

end TernaryGossip
