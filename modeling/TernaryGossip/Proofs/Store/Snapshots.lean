import Mathlib.Data.List.Perm.Subperm
import TernaryGossip.Proofs.Store.Content
import TernaryGossip.Proofs.Store.Reading

/-! # Snapshots

    A snapshot tells the partitions in any order, each with its records.
    Reading it gives the tables again, whatever the order was, because a map
    is known by its entries; and a snapshot that is cut off anywhere is not
    read at all.

    A provider that stops leaves such a snapshot in its backup, and one that
    starts with it has exactly the records of the one that stopped.  One
    that starts with a snapshot that is cut off reports an error, keeps the
    records it had and does not become available. -/

namespace TernaryGossip

theorem Partition.mem_all (p : Partition) : p ∈ all := by
  cases p <;> decide

/-! ## Tables that can be written -/

namespace Tables

/-- The numbers of records and the lengths of keys and values fit the eight
    bytes that they are written in. -/
def Sized (T : Tables) : Prop :=
  ∀ e ∈ T.entries, e.2.entries.length < 256 ^ 8 ∧
    ∀ r ∈ e.2.entries, r.1.length < 256 ^ 8 ∧ r.2.length < 256 ^ 8

instance (T : Tables) : Decidable T.Sized :=
  inferInstanceAs (Decidable (∀ e ∈ T.entries, _ ∧ ∀ r ∈ e.2.entries, _ ∧ _))

/-- There is at most one table for each partition. -/
theorem length_entries_le (T : Tables) : T.entries.length ≤ Partition.all.length := by
  have hsubset : T.keys ⊆ Partition.all := fun p _ => p.mem_all
  have hle := (List.subperm_of_subset T.nodup_keys hsubset).length_le
  rwa [OrderedMap.keys, List.length_map] at hle

end Tables

/-! ## What a snapshot is -/

namespace Snapshot

/-- The bytes are a snapshot of the tables, with the partitions in some
    order. -/
def Of (T : Tables) (b : Bytes) : Prop :=
  ∃ es, es.Perm T.entries ∧ b = Encoding.list partition es

theorem of_write (T : Tables) : Of T (write T) := ⟨T.entries, .refl _, rfl⟩

/-! ## Reading a snapshot -/

theorem reads_record {r : Bytes × Bytes} (hkey : r.1.length < 256 ^ 8)
    (hvalue : r.2.length < 256 ^ 8) : readRecord.Reads (record r) r :=
  (Reader.reads_blob hkey).bind ((Reader.reads_blob hvalue).bind_nil (.pure r))

theorem reads_partition {e : Partition × Table} (hcount : e.2.entries.length < 256 ^ 8)
    (hrecords : ∀ r ∈ e.2.entries, r.1.length < 256 ^ 8 ∧ r.2.length < 256 ^ 8) :
    readPartition.Reads (partition e) e := by
  have hnumber : e.1.number < 256 ^ 4 := by
    have hlt : e.1.number < 8 := by cases e.1 <;> decide
    exact Nat.lt_trans hlt (by decide)
  refine (Reader.reads_natural hnumber).bind ?_
  rw [Partition.ofNumber?_number]
  have hlist := Reader.reads_list hcount fun r hr =>
    reads_record (hrecords r hr).1 (hrecords r hr).2
  refine hlist.bind_nil ?_
  rw [OrderedMap.ofList_of_perm (.refl _)]
  exact .pure e

/-- A snapshot is read as the tables that it was made of. -/
theorem Of.reads {T : Tables} {b : Bytes} (h : Of T b) (hsized : T.Sized) : reader.Reads b T := by
  obtain ⟨es, hperm, rfl⟩ := h
  have hcount : es.length < 256 ^ 8 := by
    rw [hperm.length_eq]
    exact Nat.lt_of_le_of_lt T.length_entries_le (by decide)
  have hlist := Reader.reads_list hcount fun e he =>
    reads_partition (hsized e (hperm.subset he)).1 (hsized e (hperm.subset he)).2
  refine hlist.bind_nil ?_
  rw [OrderedMap.ofList_of_perm hperm]
  exact .pure T

theorem Of.read {T : Tables} {b : Bytes} (h : Of T b) (hsized : T.Sized) :
    Snapshot.read b = .ok T :=
  (h.reads hsized).run

theorem Of.read_cut {T : Tables} {b c : Bytes} (h : Of T b) (hsized : T.Sized) (hbegins : c <+: b)
    (hne : c ≠ b) : ∃ e, Snapshot.read c = .error e :=
  (h.reads hsized).run_cut hbegins hne

end Snapshot

/-! ## Stopping and starting -/

/-- A snapshot can be written to the backup. -/
def Backup.Writable : Backup → Prop
  | .absent => True
  | .blocked => False
  | .obstructed => False
  | .file _ => True

namespace Provider

theorem rewrite_of_writable {file : Backup} (h : file.Writable) (content : Bytes) :
    rewrite content file = .ok (.file content) := by
  cases file with
  | absent => rfl
  | blocked => exact absurd h id
  | obstructed => exact absurd h id
  | file old => rfl

namespace FaultFree

variable {p : Provider} (h : p.FaultFree)
include h

/-- A provider that stops leaves the snapshot of its tables. -/
theorem stop {file : Backup} (hbackup : p.backup = some file) (hfile : file.Writable) :
    p.stop = (.ok (),
      { p.attempt with available := false, backup := some (.file (Snapshot.write p.tables)) }) := by
  have hok : p.fails .stop = false := h.never_fails p.attempts .stop
  simp only [Provider.stop, hok, hbackup, rewrite_of_writable hfile, Bool.false_eq_true, if_false]

/-- A provider that starts takes the tables of its backup. -/
theorem start_of_read {content : Bytes} {T : Tables} (hbackup : p.backup = some (.file content))
    (hread : Snapshot.read content = .ok T) :
    p.start = (.ok (), { p.attempt with available := true, tables := T }) := by
  have hok : p.fails .start = false := h.never_fails p.attempts .start
  simp only [start, hok, hbackup, restore?, hread, Except.map, Bool.false_eq_true, if_false]

/-- A provider whose backup is not read stays as it is. -/
theorem start_of_error {content : Bytes} {e : StorageError}
    (hbackup : p.backup = some (.file content)) (hread : Snapshot.read content = .error e) :
    p.start = (.error e, p.attempt) := by
  have hok : p.fails .start = false := h.never_fails p.attempts .start
  simp only [start, hok, hbackup, restore?, hread, Except.map, Bool.false_eq_true, if_false]

end FaultFree

/-- A provider that stops leaves a snapshot of its records.  Whatever the
    order of the partitions in it, a provider that starts with it has these
    records, and one that starts with a strict beginning of it reports an
    error, keeps its own records and does not become available. -/
theorem snapshot_exact {p q : Provider} {file : Backup} (hp : p.FaultFree) (hq : q.FaultFree)
    (hsized : p.tables.Sized) (hbackup : p.backup = some file) (hfile : file.Writable) :
    (∃ b, Snapshot.Of p.tables b ∧
      p.stop = (.ok (), { p.attempt with available := false, backup := some (.file b) })) ∧
    ∀ b, Snapshot.Of p.tables b →
      { q with backup := some (.file b) }.start =
        (.ok (),
          { q.attempt with backup := some (.file b), available := true, tables := p.tables }) ∧
      ∀ c, c <+: b → c ≠ b →
        ∃ e, { q with backup := some (.file c) }.start =
          (.error e, { q.attempt with backup := some (.file c) }) := by
  have hfree : ∀ content, FaultFree { q with backup := some (.file content) } :=
    fun _ => ⟨hq.never_fails, hq.confirms⟩
  refine ⟨⟨Snapshot.write p.tables, Snapshot.of_write _, hp.stop hbackup hfile⟩, ?_⟩
  intro b hb
  refine ⟨(hfree b).start_of_read rfl (hb.read hsized), ?_⟩
  intro c hbegins hne
  obtain ⟨e, he⟩ := hb.read_cut hsized hbegins hne
  exact ⟨e, (hfree c).start_of_error rfl he⟩

/-- Two partitions, restored from a snapshot that tells the later one first,
    and not restored from its first half. -/
theorem snapshot_exact_two_partitions :
    let T := (Tables.put .empty .transaction [] [7]).put .tag [1] [2, 3]
    let p := { memoryWithBackup .absent with tables := T }
    let b := Encoding.list Snapshot.partition T.entries.reverse
    (∃ b, Snapshot.Of T b ∧
      p.stop = (.ok (), { p.attempt with available := false, backup := some (.file b) })) ∧
    { memory with backup := some (.file b) }.start =
      (.ok (),
        { memory.attempt with backup := some (.file b), available := true, tables := T }) ∧
    ∃ e, { memory with backup := some (.file (b.take 40)) }.start =
      (.error e, { memory.attempt with backup := some (.file (b.take 40)) }) := by
  intro T p b
  have hfree : p.FaultFree := ⟨fun _ _ => rfl, rfl⟩
  have hb : Snapshot.Of T b := ⟨T.entries.reverse, List.reverse_perm _, rfl⟩
  obtain ⟨hstop, hstart⟩ := snapshot_exact (q := memory) hfree ⟨fun _ _ => rfl, rfl⟩
    (by decide) rfl trivial
  obtain ⟨hwhole, hcut⟩ := hstart b hb
  exact ⟨hstop, hwhole, hcut (b.take 40) (List.take_prefix 40 b) (by decide)⟩

end Provider

end TernaryGossip
