import TernaryGossip.Store.Snapshot

/-!
# Providers

    A provider keeps tables of records.  It may keep them in memory, and
    then optionally write a backup when it stops and read it when it starts,
    or in a database, which outlives a restart.

    Any operation of a provider may fail.  The failures are part of the
    provider: `faults` says for each operation, and for the number of
    changes attempted so far, whether it fails.  An operation that fails
    reads and changes nothing.  Two more weaknesses are allowed: a provider
    may write a record and yet not confirm it, and it may say of any key
    that it might be there.
-/

namespace TernaryGossip

/-- What can be asked of a provider. -/
inductive Operation
  /-- To begin work. -/
  | start
  /-- To end work. -/
  | stop
  /-- To read a record. -/
  | get
  /-- To write a record. -/
  | save
  /-- To write several records. -/
  | saveAll
  /-- To remove a record. -/
  | delete
  /-- Whether a record is there. -/
  | contains
  /-- Whether a record might be there. -/
  | mayContain
  /-- The number of records. -/
  | count
  /-- The record with the least key. -/
  | first
  /-- The record with the greatest key. -/
  | last
  /-- The record after a key. -/
  | next
  /-- The record before a key. -/
  | previous
  /-- The keys with a common beginning. -/
  | keys
  /-- The keys that nothing refers to. -/
  | unreferenced
  deriving DecidableEq, Repr

/-- The file that a provider keeps its backup in. -/
inductive Backup
  /-- There is no such file yet. -/
  | absent
  /-- There is none, and none can be made. -/
  | blocked
  /-- Something else has its name. -/
  | obstructed
  /-- The file and its content. -/
  | file (content : Bytes)
  deriving DecidableEq, Repr

/-- One record to write. -/
structure Put where
  /-- The partition. -/
  partition : Partition
  /-- The key. -/
  key : Bytes
  /-- The value. -/
  value : Bytes
  deriving DecidableEq, Repr

/-- A keeper of records. -/
structure Provider where
  /-- The name in messages. -/
  name : String
  /-- The records. -/
  tables : Tables
  /-- It has started and not stopped. -/
  available : Bool
  /-- The file of its backup, if it makes one. -/
  backup : Option Backup
  /-- The operations that fail, after a number of attempted changes. -/
  faults : Nat → Operation → Bool
  /-- The number of attempted changes. -/
  attempts : Nat
  /-- It confirms what it writes. -/
  confirms : Bool
  /-- It says of every key that it might be there. -/
  vague : Bool

namespace Provider

/-! ## Making providers -/

/-- An operation that never fails. -/
def noFaults : Nat → Operation → Bool := fun _ _ => false

/-- An empty provider that works without fault. -/
def fresh (name : String) : Provider :=
  { name, tables := .empty, available := false, backup := none, faults := noFaults, attempts := 0,
    confirms := true, vague := false }

/-- A provider that keeps its records in memory. -/
def memory : Provider := fresh "memory"

/-- A provider that keeps its records in a database. -/
def database : Provider := fresh "sled"

/-- A provider in memory with a backup. -/
def memoryWithBackup (file : Backup) : Provider := { memory with backup := some file }

/-! ## Faults -/

/-- The operation fails now. -/
def fails (p : Provider) (op : Operation) : Bool := p.faults p.attempts op

/-- The error of a failing operation. -/
def refusal (p : Provider) : StorageError := .unavailable p.name

/-- One more change was attempted. -/
def attempt (p : Provider) : Provider := { p with attempts := p.attempts + 1 }

/-- What is read unless the operation fails. -/
def reading {α : Type} (p : Provider) (op : Operation) (a : α) : Except StorageError α :=
  if p.fails op then .error p.refusal else .ok a

/-! ## Starting and stopping -/

/-- The tables of a backup; `none` when there is no backup. -/
def restore? : Backup → Except StorageError (Option Tables)
  | .absent => .ok none
  | .blocked => .ok none
  | .obstructed => .error .file
  | .file content => (Snapshot.read content).map some

/-- The backup file once a snapshot was written to it. -/
def rewrite (content : Bytes) : Backup → Except StorageError Backup
  | .absent => .ok (.file content)
  | .blocked => .error .file
  | .obstructed => .error .file
  | .file _ => .ok (.file content)

/-- Begins work, with the records of the backup if there is one. -/
def start (p : Provider) : Except StorageError Unit × Provider :=
  if p.fails .start then (.error p.refusal, p.attempt)
  else
    match p.backup with
    | none => (.ok (), { p.attempt with available := true })
    | some file =>
        match restore? file with
        | .error e => (.error e, p.attempt)
        | .ok none => (.ok (), { p.attempt with available := true })
        | .ok (some tables) => (.ok (), { p.attempt with available := true, tables })

/-- Ends work and writes the backup, if the provider makes one. -/
def stop (p : Provider) : Except StorageError Unit × Provider :=
  if p.fails .stop then (.error p.refusal, p.attempt)
  else
    match p.backup with
    | none => (.ok (), { p.attempt with available := false })
    | some file =>
        match rewrite (Snapshot.write p.tables) file with
        | .error e => (.error e, { p.attempt with available := false })
        | .ok file => (.ok (), { p.attempt with available := false, backup := some file })

/-! ## Writing -/

/-- Writes a record; says whether it was confirmed. -/
def save (p : Provider) (r : Put) : Except StorageError Bool × Provider :=
  if p.fails .save then (.error p.refusal, p.attempt)
  else (.ok p.confirms, { p.attempt with tables := p.tables.put r.partition r.key r.value })

/-- Writes several records, all or none. -/
def saveAll (p : Provider) (rs : List Put) : Except StorageError Bool × Provider :=
  if p.fails .saveAll then (.error p.refusal, p.attempt)
  else
    (.ok p.confirms,
      { p.attempt with tables := rs.foldl (fun t r => t.put r.partition r.key r.value) p.tables })

/-- Removes a record. -/
def delete (p : Provider) (part : Partition) (key : Bytes) : Except StorageError Unit × Provider :=
  if p.fails .delete then (.error p.refusal, p.attempt)
  else (.ok (), { p.attempt with tables := p.tables.remove part key })

/-! ## Reading -/

/-- The value under a key. -/
def get (p : Provider) (part : Partition) (key : Bytes) : Except StorageError (Option Bytes) :=
  p.reading .get ((p.tables.table part).get? key)

/-- A record is there. -/
def contains (p : Provider) (part : Partition) (key : Bytes) : Except StorageError Bool :=
  p.reading .contains ((p.tables.table part).contains key)

/-- A record might be there. -/
def mayContain (p : Provider) (part : Partition) (key : Bytes) : Except StorageError Bool :=
  p.reading .mayContain (p.vague || (p.tables.table part).contains key)

/-- The number of records. -/
def count (p : Provider) (part : Partition) : Except StorageError Nat :=
  p.reading .count (p.tables.table part).size

/-- The record with the least key. -/
def first (p : Provider) (part : Partition) : Except StorageError (Option (Bytes × Bytes)) :=
  p.reading .first (p.tables.table part).first?

/-- The record with the greatest key. -/
def last (p : Provider) (part : Partition) : Except StorageError (Option (Bytes × Bytes)) :=
  p.reading .last (p.tables.table part).last?

/-- The record with the least key above a key. -/
def next (p : Provider) (part : Partition) (key : Bytes) :
    Except StorageError (Option (Bytes × Bytes)) :=
  p.reading .next ((p.tables.table part).next? key)

/-- The record with the greatest key below a key. -/
def previous (p : Provider) (part : Partition) (key : Bytes) :
    Except StorageError (Option (Bytes × Bytes)) :=
  p.reading .previous ((p.tables.table part).previous? key)

/-- The keys of a table that begin with `start`, in order.  They stand
together, from the least key that is not below `start` on. -/
def keysFrom (t : Table) (start : Bytes) : List Bytes :=
  ((t.entriesFrom start).map (·.1)).takeWhile (start.isPrefixOf ·)

/-- The keys that begin with `start`, in order. -/
def keys (p : Provider) (part : Partition) (start : Bytes) : Except StorageError (List Bytes) :=
  p.reading .keys (keysFrom (p.tables.table part) start)

/-- The keys of a partition that no key of the partition of its references
begins with, in order. -/
def unreferencedKeys (t : Tables) (part : Partition) : List Bytes :=
  match part.references with
  | none => []
  | some references =>
      (t.table part).keys.filter fun key => (keysFrom (t.table references) key).isEmpty

/-- The keys that nothing refers to, in order. -/
def unreferenced (p : Provider) (part : Partition) : Except StorageError (List Bytes) :=
  p.reading .unreferenced (unreferencedKeys p.tables part)

end Provider

end TernaryGossip
