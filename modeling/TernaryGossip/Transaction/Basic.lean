import TernaryGossip.Hash
import TernaryGossip.Transaction.Layout
import TernaryGossip.Transaction.Metadata

/-!
# Transactions

    A transaction is a payload of 1604 bytes, its 8019 trits, the hash that
    names it, and metadata.  The hash of a transaction that is decoded or
    built is the identity of its trits; a transaction read back from a store
    keeps the hash that it was stored under.

    A hash whose payload is unknown is represented by a placeholder with a
    payload of zeros, so all of its references are null.
-/

namespace TernaryGossip

/-- Why bytes are not the payload of a transaction. -/
inductive FormatError
  /-- The number of bytes is wrong. -/
  | invalidLength (expected got : Nat)
  /-- A byte is not a packed group of trits. -/
  | ternary (cause : TritError)
  deriving DecidableEq, Repr

/-- The text shown for an error. -/
def FormatError.message : FormatError → String
  | .invalidLength expected got =>
      s!"invalid payload length: expected {expected} bytes, got {got}"
  | .ternary cause => cause.message

/-- A payload with its name and metadata. -/
structure Transaction where
  /-- The hash that names the transaction. -/
  hash : Hash
  /-- The packed payload. -/
  payload : Bytes
  /-- The trits of the payload. -/
  trits : Trits
  /-- What is known beside the payload. -/
  facts : Metadata
  /-- The payload has 1604 bytes. -/
  length_payload : payload.length = 1604
  /-- The payload has 8019 trits. -/
  length_trits : trits.length = 8019
  deriving DecidableEq

namespace Transaction

/-! ## Making transactions -/

/-- The trits of a payload, if its bytes form one. -/
def readPayload (b : Bytes) : Except FormatError { ts : Trits // b.length = 1604 ∧ ts.length = 8019 } :=
  if hb : b.length = 1604 then
    match h : Packed.unpack 8019 b with
    | .ok ts => .ok ⟨ts, hb, Packed.length_of_unpack h⟩
    | .error e => .error (.ternary e)
  else
    .error (.invalidLength 1604 b.length)

/-- The transaction of a payload, named by its identity. -/
def decode (b : Bytes) : Except FormatError Transaction :=
  match readPayload b with
  | .ok ⟨ts, hb, hts⟩ =>
      .ok { hash := Hash.identity ts, payload := b, trits := ts, facts := .fresh .filled,
            length_payload := hb, length_trits := hts }
  | .error e => .error e

/-- The transaction of a payload, named by the hash it was stored under. -/
def ofStored (hash : Hash) (b : Bytes) : Except FormatError Transaction :=
  match readPayload b with
  | .ok ⟨ts, hb, hts⟩ =>
      .ok { hash, payload := b, trits := ts, facts := .fresh .filled,
            length_payload := hb, length_trits := hts }
  | .error e => .error e

/-- The first 8019 places, with zeros where there are fewer. -/
def fill (ts : Trits) : Trits := ts.take 8019 ++ List.replicate (8019 - ts.length) 0

theorem length_fill (ts : Trits) : (fill ts).length = 8019 := by
  simp [fill]; omega

/-- The transaction of a sequence of trits. -/
def ofTrits (ts : Trits) : Transaction :=
  { hash := Hash.identity (fill ts)
    payload := Packed.pack (fill ts)
    trits := fill ts
    facts := .fresh .filled
    length_payload := by rw [Packed.length_pack, length_fill]
    length_trits := length_fill ts }

/-- The placeholder of a hash whose payload is unknown. -/
def placeholder (hash : Hash) : Transaction :=
  { hash
    payload := List.replicate 1604 0
    trits := List.replicate 8019 0
    facts := .fresh (if hash.isNull then .nonexistent else .prefilled)
    length_payload := List.length_replicate
    length_trits := List.length_replicate }

instance : Inhabited Transaction := ⟨placeholder Hash.null⟩

/-! ## Fields -/

/-- The hash in a run of trits. -/
def fieldHash (t : Transaction) (f : Layout.Field) : Hash := Hash.ofTrits (f.read t.trits)

/-- The number in a run of trits. -/
def fieldNumber (t : Transaction) (f : Layout.Field) : Int := Balanced.value (f.read t.trits)

/-- The address. -/
def address (t : Transaction) : Hash := t.fieldHash Layout.address

/-- The bundle. -/
def bundle (t : Transaction) : Hash := t.fieldHash Layout.bundle

/-- The first parent. -/
def trunk (t : Transaction) : Hash := t.fieldHash Layout.trunk

/-- The second parent. -/
def branch (t : Transaction) : Hash := t.fieldHash Layout.branch

/-- The tag, with zeros after its 81 trits. -/
def tag (t : Transaction) : Hash := t.fieldHash Layout.tag

/-- The nonce. -/
def nonce (t : Transaction) : Hash := t.fieldHash Layout.nonce

/-- The amount in the usable trits. -/
def value (t : Transaction) : Int := t.fieldNumber Layout.usableValue

/-- The trits of the amount above the usable ones are zero. -/
def unusedValueIsZero (t : Transaction) : Bool := (Layout.unusedValue.read t.trits).all (· == 0)

/-- The time at which the transaction was made. -/
def timestamp (t : Transaction) : Int := t.fieldNumber Layout.timestamp

/-- The position in the bundle. -/
def currentIndex (t : Transaction) : Int := t.fieldNumber Layout.currentIndex

/-- The last position in the bundle. -/
def lastIndex (t : Transaction) : Int := t.fieldNumber Layout.lastIndex

/-- The proof of work in the hash. -/
def weight (t : Transaction) : Nat := t.hash.weight

/-- The payload is known. -/
def isFilled (t : Transaction) : Bool := t.facts.knowledge == .filled

/-- The text of a transaction in messages. -/
def text (t : Transaction) : String :=
  "TransactionRecord \x7b hash: " ++ t.hash.shortForm ++ ", metadata: " ++ t.facts.text ++ ", .. \x7d"

/-! ## Identity

Two transactions are the same when name, payload and metadata agree. -/

/-- Name, payload and metadata agree. -/
def same (s t : Transaction) : Bool :=
  s.hash == t.hash && s.payload == t.payload && s.facts == t.facts

/-- A copy.  Its trits are read from the payload again. -/
def copy (t : Transaction) : Transaction :=
  { t with
    trits := Packed.readable 8019 t.payload
    length_trits := Packed.length_readable 8019 t.payload }

end Transaction

end TernaryGossip
