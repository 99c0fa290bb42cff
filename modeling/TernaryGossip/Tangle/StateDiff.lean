import TernaryGossip.Store.Basic

/-!
# Changes of the ledger

    A milestone confirms changes of balances: for each address an amount
    that is added.  They are stored under the hash of the milestone.
-/

namespace TernaryGossip

/-- The changes of balances that one milestone confirms. -/
structure StateDiff where
  /-- The milestone. -/
  hash : Hash
  /-- The change of each address. -/
  changes : OrderedMap Hash Int64

namespace StateDiff

/-- No changes, of no milestone. -/
instance : Inhabited StateDiff := ⟨⟨Hash.null, .empty⟩⟩

/-- The sum of all changes. -/
def net (d : StateDiff) : Int := (d.changes.values.map Int64.toInt).foldr (· + ·) 0

/-- The stored form of one change. -/
def encodeChange (c : Hash × Int64) : Bytes :=
  Encoding.hash c.1 ++ Encoding.natural 8 c.2.toUInt64.toNat

/-- The stored form of the changes of a milestone. -/
def encode (d : StateDiff) : Bytes :=
  Encoding.hash d.hash ++ Encoding.list encodeChange d.changes.entries

/-- Reads one change. -/
def readChange : Reader (Hash × Int64) := do
  let address ← Reader.hash
  let n ← Reader.natural 8
  return (address, (UInt64.ofNat n).toInt64)

/-- Reads the changes of a milestone; of two for one address the later counts. -/
def reader : Reader StateDiff := do
  let hash ← Reader.hash
  let changes ← Reader.list readChange
  return ⟨hash, .ofList changes⟩

/-- Stores the changes of a milestone in place of those stored before. -/
def store (d : StateDiff) (s : Store) : Except StorageError Bool × Store :=
  s.save .stateDiff (Key.ofHash d.hash) d.encode

/-- The stored changes of a milestone. -/
def load (s : Store) (h : Hash) : Except StorageError (Option StateDiff) := do
  match ← s.get .stateDiff (Key.ofHash h) with
  | none => return none
  | some b => return some (← Reader.run reader b)

/-- Changes of the milestone might be stored. -/
def isStored (s : Store) (h : Hash) : Except StorageError Bool :=
  s.mayContain .stateDiff (Key.ofHash h)

/-- Removes the changes of a milestone. -/
def delete (s : Store) (h : Hash) : Except StorageError Unit × Store :=
  s.delete .stateDiff (Key.ofHash h)

end StateDiff

end TernaryGossip
