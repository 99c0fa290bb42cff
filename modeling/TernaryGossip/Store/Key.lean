import TernaryGossip.Hash

/-!
# Keys

    Records are stored under byte strings.  The bytes of a key sort as the
    thing it stands for does, so that the neighbours of a record in a table
    are its neighbours in meaning: numbers are written with their most
    significant byte first, and hashes are their own bytes.

    A reference key joins two hashes, the one referred to in front.  All
    keys that refer to a hash therefore start with it and stand together.
-/

namespace TernaryGossip.Key

/-! ## Numbers -/

/-- The key of a number: four bytes, most significant first. -/
def ofIndex (i : UInt32) : Bytes := Bytes.bigEndian 4 i.toNat

/-- The number of a key of four bytes. -/
def index? (key : Bytes) : Option UInt32 :=
  if key.length = 4 then some (UInt32.ofNat (Bytes.ofBigEndian key)) else none

@[simp] theorem index?_ofIndex (i : UInt32) : index? (ofIndex i) = some i := by
  have h := i.toNat_lt
  simp only [index?, ofIndex, Bytes.length_bigEndian, if_true, Bytes.ofBigEndian_bigEndian,
    Option.some.injEq]
  rw [Nat.mod_eq_of_lt (by omega), UInt32.ofNat_toNat]

/-- The next number; the greatest is its own successor. -/
def indexSucc (i : UInt32) : UInt32 := if i.toNat = 4294967295 then i else i + 1

/-- The previous number; zero is its own predecessor. -/
def indexPred (i : UInt32) : UInt32 := if i.toNat = 0 then i else i - 1

/-! ## Hashes -/

/-- The key of a hash. -/
def ofHash (h : Hash) : Bytes := h.bytes

/-- The key under which one fact about a transaction is kept. -/
def ofFact (h : Hash) (tag : UInt8) : Bytes := h.bytes ++ [tag]

/-- The key that says that `referrer` refers to `referred`. -/
def ofReference (referred referrer : Hash) : Bytes := referred.bytes ++ referrer.bytes

/-- The referrer of a reference key. -/
def referrer? (key : Bytes) : Option Hash :=
  if key.length = 98 then some (Hash.ofBytes (key.drop 49)) else none

@[simp] theorem referrer?_ofReference (referred referrer : Hash) :
    referrer? (ofReference referred referrer) = some referrer := by
  simp [referrer?, ofReference, referred.length_bytes, referrer.length_bytes,
    List.drop_left' referred.length_bytes]

end TernaryGossip.Key
