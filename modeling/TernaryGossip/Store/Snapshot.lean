import TernaryGossip.OrderedMap
import TernaryGossip.Store.Encoding
import TernaryGossip.Store.Partition

/-!
# Tables and their snapshots

    The content of a provider is one table per partition, made when the
    first record is put into it.  A snapshot is all of it as one byte
    string: the list of the partitions, each with the list of its records.
    When a snapshot names a partition or a key twice, the later one counts.
-/

namespace TernaryGossip

/-- The records of one partition. -/
abbrev Table := OrderedMap Bytes Bytes

/-- The records of all partitions. -/
abbrev Tables := OrderedMap Partition Table

namespace Tables

/-- The table of a partition. -/
def table (t : Tables) (p : Partition) : Table := (t.get? p).getD .empty

/-- Puts a record into a partition. -/
def put (t : Tables) (p : Partition) (key value : Bytes) : Tables :=
  t.insert p ((t.table p).insert key value)

/-- Removes a record from a partition. -/
def remove (t : Tables) (p : Partition) (key : Bytes) : Tables :=
  match t.get? p with
  | some m => t.insert p (m.erase key)
  | none => t

@[simp] theorem table_empty (p : Partition) : table .empty p = .empty := rfl

@[simp] theorem table_put_self (t : Tables) (p : Partition) (key value : Bytes) :
    (t.put p key value).table p = (t.table p).insert key value := by
  simp [put, table]

@[simp] theorem table_put_of_ne (t : Tables) {p q : Partition} (key value : Bytes) (h : q ≠ p) :
    (t.put p key value).table q = t.table q := by
  simp [put, table, OrderedMap.get?_insert_of_ne _ _ h]

@[simp] theorem table_remove_self (t : Tables) (p : Partition) (key : Bytes) :
    (t.remove p key).table p = (t.table p).erase key := by
  unfold remove table
  cases h : t.get? p with
  | none => simp [h, OrderedMap.erase, OrderedMap.empty]
  | some m => simp

@[simp] theorem table_remove_of_ne (t : Tables) {p q : Partition} (key : Bytes) (h : q ≠ p) :
    (t.remove p key).table q = t.table q := by
  unfold remove table
  cases t.get? p with
  | none => rfl
  | some m => simp [OrderedMap.get?_insert_of_ne _ _ h]

end Tables

namespace Snapshot

/-- One record. -/
def record (e : Bytes × Bytes) : Bytes := Encoding.blob e.1 ++ Encoding.blob e.2

/-- One partition with its records. -/
def partition (e : Partition × Table) : Bytes :=
  Encoding.natural 4 e.1.number ++ Encoding.list record e.2.entries

/-- The snapshot of all tables. -/
def write (t : Tables) : Bytes := Encoding.list partition t.entries

/-- Reads one record. -/
def readRecord : Reader (Bytes × Bytes) := do
  let key ← Reader.blob
  let value ← Reader.blob
  return (key, value)

/-- Reads one partition. -/
def readPartition : Reader (Partition × Table) := do
  let n ← Reader.natural 4
  match Partition.ofNumber? n with
  | none => throw (.notPartition n)
  | some p => do
      let records ← Reader.list readRecord
      return (p, .ofList records)

/-- Reads all tables. -/
def reader : Reader Tables := do
  let parts ← Reader.list readPartition
  return .ofList parts

/-- The tables of a snapshot. -/
def read (b : Bytes) : Except StorageError Tables := reader.run b

end Snapshot

end TernaryGossip
