import TernaryGossip.Trit.Balanced

/-!
# The layout of a transaction

    A transaction is 8019 trits, cut into fields that follow one another
    without gaps.  Packed it takes 1604 bytes, whose last byte carries only
    four trits.  A packet on the wire is a packed transaction followed by
    the 49 bytes of a requested hash.
-/

namespace TernaryGossip.Layout

/-- A run of trits inside a transaction. -/
structure Field where
  /-- The position of its first trit. -/
  offset : Nat
  /-- The number of its trits. -/
  size : Nat
  deriving DecidableEq, Repr

/-- The position after the last trit of a field. -/
def Field.stop (f : Field) : Nat := f.offset + f.size

/-- The places of a field. -/
def Field.read (f : Field) (ts : Trits) : Trits := (ts.drop f.offset).take f.size

/-- Replaces the places of a field from its first one on; what does not fit
into the field is cut off. -/
def Field.write (f : Field) (content : Trits) (ts : Trits) : Trits :=
  let content := content.take f.size
  ts.take f.offset ++ content ++ ts.drop (f.offset + content.length)

/-- The signature, or a message. -/
def signature : Field := ⟨0, 6561⟩

/-- The address that the transaction spends from or pays to. -/
def address : Field := ⟨6561, 243⟩

/-- The amount; all of its trits. -/
def value : Field := ⟨6804, 81⟩

/-- The low trits of the amount, which carry the number. -/
def usableValue : Field := ⟨6804, 33⟩

/-- The high trits of the amount, which have to be zero. -/
def unusedValue : Field := ⟨6837, 48⟩

/-- The tag. -/
def tag : Field := ⟨6885, 81⟩

/-- The time at which the transaction was made. -/
def timestamp : Field := ⟨6966, 27⟩

/-- The position of the transaction in its bundle. -/
def currentIndex : Field := ⟨6993, 27⟩

/-- The last position in its bundle. -/
def lastIndex : Field := ⟨7020, 27⟩

/-- The bundle. -/
def bundle : Field := ⟨7047, 243⟩

/-- The first parent. -/
def trunk : Field := ⟨7290, 243⟩

/-- The second parent. -/
def branch : Field := ⟨7533, 243⟩

/-- Free trits, varied to find a hash with enough weight. -/
def nonce : Field := ⟨7776, 243⟩

/-- The fields in the order in which they stand. -/
def fields : List Field :=
  [signature, address, value, tag, timestamp, currentIndex, lastIndex, bundle, trunk, branch, nonce]

/-- The fields that hold a hash, with their names. -/
def hashFields : List (String × Field) :=
  [ ("address", address), ("tag", tag), ("bundle", bundle), ("trunk", trunk), ("branch", branch),
    ("nonce", nonce) ]

/-- The fields that hold a number, with their names. -/
def numberFields : List (String × Field) :=
  [ ("value", usableValue), ("timestamp", timestamp), ("current_index", currentIndex),
    ("last_index", lastIndex) ]

/-- The number of trits of a transaction. -/
def tritCount : Nat := 8019

/-- The number of bytes of a packed transaction. -/
def byteCount : Nat := 1604

/-- The number of bytes of a packet. -/
def packetByteCount : Nat := 1653

/-- The total supply; no value is greater in magnitude. -/
def supply : Int := 2779530283277761

/-- The version of the layout and of the rules around it. -/
def version : String := "0.1.0"

/-- Every field starts where the one before it stops, and the last one
stops at the end of the transaction. -/
theorem fields_contiguous :
    fields.map Field.offset = 0 :: (fields.map Field.stop).dropLast ∧
      (fields.map Field.stop).getLast? = some tritCount := by
  decide

@[simp] theorem Field.length_read (f : Field) (ts : Trits) :
    (f.read ts).length = min f.size (ts.length - f.offset) := by
  simp [Field.read]

theorem Field.length_write (f : Field) (content : Trits) {ts : Trits} (h : f.stop ≤ ts.length) :
    (f.write content ts).length = ts.length := by
  unfold Field.stop at h
  simp [Field.write]; omega

end TernaryGossip.Layout
