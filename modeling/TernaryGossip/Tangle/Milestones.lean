import TernaryGossip.Tangle.StateDiff

/-!
# Milestones

    A milestone names a transaction by a number that never repeats.  Stored
    milestones are ordered by their numbers, and a node moves along them.

    Milestones that were seen are kept beside the store: the first one seen
    under a number stays until it is deleted, and one that the node creates
    takes the place of what was there.  The milestone with the greatest
    number that was created, or loaded as the latest, is the latest known.

    A milestone has a snapshot if changes of the ledger might be stored under
    its hash.
-/

namespace TernaryGossip

/-- A number and the transaction that it stands for. -/
structure Milestone where
  /-- The number. -/
  index : UInt32
  /-- The transaction. -/
  hash : Hash
  deriving DecidableEq

namespace Milestone

/-- The stored form of a milestone. -/
def encode (m : Milestone) : Bytes := Encoding.natural 4 m.index.toNat ++ Encoding.hash m.hash

/-- Reads a milestone. -/
def reader : Reader Milestone := do
  let index ← Reader.natural 4
  let hash ← Reader.hash
  return ⟨UInt32.ofNat index, hash⟩

/-- Changes of the ledger might be stored for the milestone. -/
def hasSnapshot (m : Milestone) (s : Store) : Except StorageError Bool := StateDiff.isStored s m.hash

end Milestone

/-- The milestones that a node has seen. -/
structure Milestones where
  /-- Those seen, by their numbers. -/
  seen : OrderedMap UInt32 Milestone
  /-- The latest known. -/
  latest : Option Milestone

namespace Milestones

/-- An answer and what was seen on the way to it. -/
abbrev Found := Except StorageError (Option Milestone) × Milestones

/-- Nothing was seen yet. -/
def empty : Milestones := ⟨.empty, none⟩

instance : Inhabited Milestones := ⟨empty⟩

/-- The hash of the latest known milestone, or the null hash. -/
def latestHash (ms : Milestones) : Hash := (ms.latest.map Milestone.hash).getD Hash.null

/-- The milestones once one became known. -/
def observe (ms : Milestones) (m : Milestone) : Milestones :=
  match ms.latest with
  | none => { ms with latest := some m }
  | some known => if known.index < m.index then { ms with latest := some m } else ms

/-! ## One milestone -/

/-- Stores a new milestone; says whether the store confirmed it. -/
def create (ms : Milestones) (s : Store) (index : UInt32) (hash : Hash) :
    Except StorageError Bool × Milestones × Store :=
  let m : Milestone := ⟨index, hash⟩
  match s.save .milestone (Key.ofIndex index) m.encode with
  | (.error e, s) => (.error e, ms, s)
  | (.ok saved, s) => (.ok saved, { ms with seen := ms.seen.insert index m }.observe m, s)

/-- The milestone of a number. -/
def get (ms : Milestones) (s : Store) (index : UInt32) : Found :=
  match ms.seen.get? index with
  | some m => (.ok (some m), ms)
  | none =>
      match s.get .milestone (Key.ofIndex index) with
      | .error e => (.error e, ms)
      | .ok none => (.ok none, ms)
      | .ok (some b) =>
          match Milestone.reader.run b with
          | .error e => (.error e, ms)
          | .ok m => (.ok (some m), { ms with seen := ms.seen.insert index m })

/-- Deletes the milestone of a number. -/
def delete (ms : Milestones) (s : Store) (index : UInt32) :
    Except StorageError Unit × Milestones × Store :=
  match s.delete .milestone (Key.ofIndex index) with
  | (.error e, s) => (.error e, ms, s)
  | (.ok (), s) => (.ok (), { ms with seen := ms.seen.erase index }, s)

/-! ## Moving along -/

/-- The milestone of a record found in the store. -/
def note (ms : Milestones) (found : Except StorageError (Option (Bytes × Bytes))) : Found :=
  match found with
  | .error e => (.error e, ms)
  | .ok none => (.ok none, ms)
  | .ok (some (_, b)) =>
      match Milestone.reader.run b with
      | .error e => (.error e, ms)
      | .ok m =>
          (.ok (some m),
            if ms.seen.contains m.index then ms else { ms with seen := ms.seen.insert m.index m })

/-- The milestone with the least number. -/
def first (ms : Milestones) (s : Store) : Found := ms.note (s.first .milestone)

/-- The milestone with the greatest number. -/
def last (ms : Milestones) (s : Store) : Found := ms.note (s.last .milestone)

/-- The milestone with the least number above another. -/
def next (ms : Milestones) (s : Store) (index : UInt32) : Found :=
  ms.note (s.next .milestone (Key.ofIndex index))

/-- The milestone with the greatest number below another. -/
def previous (ms : Milestones) (s : Store) (index : UInt32) : Found :=
  ms.note (s.previous .milestone (Key.ofIndex index))

/-- The milestone with the greatest number up to a given one. -/
def atOrBefore (ms : Milestones) (s : Store) (index : UInt32) : Found :=
  if Key.indexSucc index = index then ms.last s else ms.previous s (Key.indexSucc index)

/-- The milestone with the least number from a given one on. -/
def atOrAfter (ms : Milestones) (s : Store) (index : UInt32) : Found :=
  if index = 0 then ms.first s else ms.next s (Key.indexPred index)

/-- Makes the last stored milestone known. -/
def loadLatest (ms : Milestones) (s : Store) : Found :=
  match ms.last s with
  | (.ok (some m), ms) => (.ok (some m), ms.observe m)
  | other => other

/-! ## Snapshots -/

/-- Moves on with `move` until a milestone has a snapshot, for at most
`steps` milestones. -/
def search (s : Store) (move : Milestones → UInt32 → Found) : Nat → Found → Found
  | 0, (.ok _, ms) => (.ok none, ms)
  | _, (.error e, ms) => (.error e, ms)
  | _, (.ok none, ms) => (.ok none, ms)
  | steps + 1, (.ok (some m), ms) =>
      match m.hasSnapshot s with
      | .error e => (.error e, ms)
      | .ok true => (.ok (some m), ms)
      | .ok false => search s move steps (move ms m.index)

/-- A bound on the number of milestones that are passed: each one passed is
another record of the store. -/
def bound (s : Store) : Nat := s.totalSize .milestone + 1

/-- The first milestone with a snapshot. -/
def firstWithSnapshot (ms : Milestones) (s : Store) : Found :=
  search s (fun ms => ms.next s) (bound s) (ms.first s)

/-- The last milestone with a snapshot. -/
def lastWithSnapshot (ms : Milestones) (s : Store) : Found :=
  search s (fun ms => ms.previous s) (bound s) (ms.last s)

/-- The first milestone above a number with a snapshot. -/
def nextWithSnapshot (ms : Milestones) (s : Store) (index : UInt32) : Found :=
  search s (fun ms => ms.next s) (bound s) (ms.next s index)

end Milestones

end TernaryGossip
