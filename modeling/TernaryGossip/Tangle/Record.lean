import TernaryGossip.Store.Basic

/-!
# Stored transactions

    A transaction is stored once, together with the entries by which it is
    found again: under its two parents, its address, its bundle and its tag.
    All of it is written at a time.  The null hash is never loaded from a
    store, and a hash without a stored payload is loaded as a placeholder.

    Each fact about a transaction is stored on its own, when it is learned
    and not before.  A fact that is known already is not written again.
-/

namespace TernaryGossip

/-! ## The stored form of facts -/

namespace Fact

/-- The byte that tells the facts about one transaction apart. -/
def tag : Fact → UInt8
  | .solid _ => 1
  | .confirmed _ => 2
  | .height _ => 3
  | .arrival _ => 4
  | .sender _ => 5
  | .validity _ => 6

/-- The stored form of a fact. -/
def encode : Fact → Bytes
  | .solid value => Encoding.truth value
  | .confirmed value => Encoding.truth value
  | .height value => Encoding.natural 8 value.toNat
  | .arrival value => Encoding.natural 8 value.toUInt64.toNat
  | .sender value => Encoding.text value
  | .validity value => Encoding.natural 4 value.toUInt32.toNat

/-- How the fact of each tag is read. -/
def readers : List (UInt8 × Reader Fact) :=
  [ (1, return .solid (← Reader.truth)),
    (2, return .confirmed (← Reader.truth)),
    (3, return .height (UInt64.ofNat (← Reader.natural 8))),
    (4, return .arrival (UInt64.ofNat (← Reader.natural 8)).toInt64),
    (5, return .sender (← Reader.text)),
    (6, return .validity (UInt32.ofNat (← Reader.natural 4)).toInt32) ]

end Fact

namespace Transaction

/-! ## Storing -/

/-- Everything that is written when a transaction is stored. -/
def puts (t : Transaction) : List Put :=
  [ ⟨.transaction, Key.ofHash t.hash, t.payload⟩,
    ⟨.approvers, Key.ofReference t.trunk t.hash, []⟩,
    ⟨.approvers, Key.ofReference t.branch t.hash, []⟩,
    ⟨.address, Key.ofReference t.address t.hash, []⟩,
    ⟨.bundle, Key.ofReference t.bundle t.hash, []⟩,
    ⟨.tag, Key.ofReference t.tag t.hash, []⟩ ]

/-- A payload is stored under the hash. -/
def isStored (s : Store) (h : Hash) : Except StorageError Bool :=
  s.contains .transaction (Key.ofHash h)

/-- Stores a transaction that is not stored yet; says whether it was new. -/
def store (t : Transaction) (s : Store) : Except StorageError Bool × Store :=
  match isStored s t.hash with
  | .error e => (.error e, s)
  | .ok true => (.ok false, s)
  | .ok false => s.saveAll t.puts

/-- The number of stored transactions. -/
def storedCount (s : Store) : Except StorageError Nat := s.count .transaction

/-! ## Loading -/

/-- The stored facts about a hash, as bytes. -/
def loadFacts (s : Store) (h : Hash) :
    List (UInt8 × Reader Fact) → Except StorageError (List (Reader Fact × Bytes))
  | [] => .ok []
  | (tag, reader) :: rest => do
      let found ← s.get .transactionMetadata (Key.ofFact h tag)
      let later ← loadFacts s h rest
      return match found with
        | some b => (reader, b) :: later
        | none => later

/-- The metadata once stored facts are learned. -/
def learnAll (m : Metadata) : List (Reader Fact × Bytes) → Except StorageError Metadata
  | [] => .ok m
  | (reader, b) :: rest => do
      let fact ← Reader.run reader b
      learnAll (m.learn fact) rest

/-- The transaction of a hash with everything that is stored about it, or a
placeholder. -/
def load (s : Store) (h : Hash) : Except StorageError Transaction :=
  if h.isNull then .ok (placeholder h)
  else
    match s.get .transaction (Key.ofHash h) with
    | .error e => .error e
    | .ok none => .ok (placeholder h)
    | .ok (some payload) =>
        match ofStored h payload with
        | .error e => .error (.record (.payload e))
        | .ok t => do
            let stored ← loadFacts s h Fact.readers
            let facts ← learnAll t.facts stored
            return { t with facts }

/-! ## Learning -/

/-- Stores a fact about a transaction and notes it in its metadata; says
whether it was new.  When it cannot be stored, it is not noted either. -/
def learn (t : Transaction) (s : Store) (f : Fact) :
    Except StorageError Bool × Transaction × Store :=
  if t.facts.knows f then (.ok false, t, s)
  else
    match s.save .transactionMetadata (Key.ofFact t.hash f.tag) f.encode with
    | (.error e, s) => (.error e, t, s)
    | (.ok _, s) => (.ok true, { t with facts := t.facts.learn f }, s)

/-! ## Finding -/

/-- The hashes that are stored as referring to a hash, in order. -/
def referrers (s : Store) (part : Partition) (h : Hash) : Except StorageError (List Hash) :=
  (s.keys part h.bytes).map (·.filterMap Key.referrer?)

/-- The stored transactions whose trunk or branch this one is. -/
def approvers (t : Transaction) (s : Store) : Except StorageError (List Hash) :=
  referrers s .approvers t.hash

end Transaction

end TernaryGossip
