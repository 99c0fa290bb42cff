import TernaryGossip.Proofs.Store.Prefix
import TernaryGossip.Proofs.Store.Trees

/-! # Providers in memory and in a database

    A provider in memory keeps the tables themselves and answers from them;
    a database asks its trees.  Both find the keys with a common beginning
    by a scan, and decide differently which keys nothing refers to: in memory
    by the first reference key that is not below the key, in the database by
    a scan of the references for every key.

    Every question has a plain answer on the tables.  After the same changes
    of empty records both give this answer. -/

namespace TernaryGossip

variable {τ : Type}

/-! ## Questions -/

/-- A question to a keeper of records. -/
inductive Query
  /-- The value under a key. -/
  | get (part : Partition) (key : Bytes)
  /-- Whether a record is there. -/
  | contains (part : Partition) (key : Bytes)
  /-- Whether a record might be there. -/
  | mayContain (part : Partition) (key : Bytes)
  /-- The number of records. -/
  | count (part : Partition)
  /-- The record with the least key. -/
  | first (part : Partition)
  /-- The record with the greatest key. -/
  | last (part : Partition)
  /-- The record after a key. -/
  | next (part : Partition) (key : Bytes)
  /-- The record before a key. -/
  | previous (part : Partition) (key : Bytes)
  /-- The keys with a common beginning. -/
  | keys (part : Partition) (start : Bytes)
  /-- The keys that nothing refers to. -/
  | unreferenced (part : Partition)

/-- An answer to a question. -/
inductive Answer
  /-- A value, if there is one. -/
  | value (v : Option Bytes)
  /-- Yes or no. -/
  | truth (b : Bool)
  /-- A number. -/
  | number (n : Nat)
  /-- A record, if there is one. -/
  | record (e : Option (Bytes × Bytes))
  /-- Keys. -/
  | keys (ks : List Bytes)
  deriving DecidableEq

/-- The answer of a provider. -/
def Provider.answer (p : Provider) : Query → Except StorageError Answer
  | .get part key => (p.get part key).map .value
  | .contains part key => (p.contains part key).map .truth
  | .mayContain part key => (p.mayContain part key).map .truth
  | .count part => (p.count part).map .number
  | .first part => (p.first part).map .record
  | .last part => (p.last part).map .record
  | .next part key => (p.next part key).map .record
  | .previous part key => (p.previous part key).map .record
  | .keys part start => (p.keys part start).map .keys
  | .unreferenced part => (p.unreferenced part).map .keys

/-- The answer of a database. -/
def Database.answer (E : TreeEngine τ) (d : Database τ) : Query → Answer
  | .get part key => .value (d.get E part key)
  | .contains part key => .truth (d.contains E part key)
  | .mayContain part key => .truth (d.mayContain E part key)
  | .count part => .number (d.count E part)
  | .first part => .record (d.first E part)
  | .last part => .record (d.last E part)
  | .next part key => .record (d.next E part key)
  | .previous part key => .record (d.previous E part key)
  | .keys part start => .keys (d.keys E part start)
  | .unreferenced part => .keys (d.unreferenced E part)

/-! ## Plain answers -/

namespace Tables

/-- All keys that begin with `start`, in the order of the keys. -/
def keysBeginning (T : Tables) (part : Partition) (start : Bytes) : List Bytes :=
  (T.table part).keys.filter fun key => start.isPrefixOf key

/-- All keys that are the beginning of no key of the partition of their
    references, in the order of the keys. -/
def keysUnreferenced (T : Tables) (part : Partition) : List Bytes :=
  match part.references with
  | none => []
  | some references =>
      (T.table part).keys.filter fun key => !(T.table references).keys.any (key.isPrefixOf ·)

/-- The answer that follows from the records alone. -/
def answer (T : Tables) : Query → Answer
  | .get part key => .value ((T.table part).get? key)
  | .contains part key => .truth ((T.table part).get? key).isSome
  | .mayContain part key => .truth ((T.table part).get? key).isSome
  | .count part => .number (T.table part).entries.length
  | .first part => .record (T.table part).entries.head?
  | .last part => .record (T.table part).entries.getLast?
  | .next part key => .record ((T.table part).entries.find? fun e => compare key e.1 == .lt)
  | .previous part key =>
      .record ((T.table part).entries.reverse.find? fun e => compare e.1 key == .lt)
  | .keys part start => .keys (T.keysBeginning part start)
  | .unreferenced part => .keys (T.keysUnreferenced part)

end Tables

/-! ## Memory -/

theorem isEmpty_filter_eq {α : Type} (p : α → Bool) (xs : List α) :
    (xs.filter p).isEmpty = !xs.any p := by
  rw [Bool.eq_iff_iff]
  simp

namespace Provider

/-- The scan for the keys that begin with `key` is empty if its first entry
    is none of them: what is in memory is decided by the first reference that
    is not below the key. -/
theorem isEmpty_keysFrom (t : Table) (key : Bytes) :
    (keysFrom t key).isEmpty = !(t.entriesFrom key).head?.any fun e => key.isPrefixOf e.1 := by
  rw [keysFrom]
  cases t.entriesFrom key with
  | nil => rfl
  | cons e es => cases h : key.isPrefixOf e.1 <;> simp [h]

/-- A key is the beginning of some key of a table exactly if it is the
    beginning of the first one that is not below it. -/
theorem any_head?_entriesFrom (t : Table) (key : Bytes) :
    ((t.entriesFrom key).head?.any fun e => key.isPrefixOf e.1) =
      t.keys.any (key.isPrefixOf ·) := by
  have hscan := isEmpty_keysFrom t key
  rw [keysFrom_eq_filter, isEmpty_filter_eq] at hscan
  exact (Bool.not_inj hscan).symm

theorem unreferencedKeys_eq (T : Tables) (part : Partition) :
    unreferencedKeys T part = T.keysUnreferenced part := by
  unfold unreferencedKeys Tables.keysUnreferenced
  cases part.references with
  | none => rfl
  | some references => simp only [isEmpty_keysFrom, any_head?_entriesFrom]

/-- A provider that never fails and knows its keys gives the plain answers. -/
theorem FaultFree.answer {p : Provider} (h : p.FaultFree) (hexact : p.vague = false) (q : Query) :
    p.answer q = .ok (p.tables.answer q) := by
  cases q with
  | keys part start =>
    rw [Provider.answer, Provider.keys, h.reading, keysFrom_eq_filter]
    rfl
  | unreferenced part =>
    rw [Provider.answer, Provider.unreferenced, h.reading, unreferencedKeys_eq]
    rfl
  | previous part key =>
    rw [Provider.answer, Provider.previous, h.reading, OrderedMap.previous?_eq_find?]
    rfl
  | mayContain part key =>
    rw [Provider.answer, Provider.mayContain, h.reading, hexact, Bool.false_or]
    rfl
  | _ =>
    simp only [Provider.answer, Provider.get, Provider.contains, Provider.count, Provider.first,
      Provider.last, Provider.next, h.reading]
    rfl

end Provider

/-! ## The database -/

namespace Database

variable {E : TreeEngine τ} {view : τ → Table} (hE : E.IsOrderedMap view)
include hE

theorem Shows.unreferenced {d : Database τ} {T : Tables} (h : d.Shows view T) (part : Partition) :
    d.unreferenced E part = T.keysUnreferenced part := by
  unfold Database.unreferenced Tables.keysUnreferenced
  cases part.references with
  | none => rfl
  | some references =>
    simp only [hE.entries, hE.scan, h part, h references]
    apply List.filter_congr
    intro key _
    rw [List.head?_filter, ← Option.not_isSome, List.isSome_find?, OrderedMap.keys, List.any_map]
    rfl

/-- A database of ordered maps gives the plain answers to the tables that it
    shows. -/
theorem Shows.answer {d : Database τ} {T : Tables} (h : d.Shows view T) (q : Query) :
    d.answer E q = T.answer q := by
  cases q with
  | keys part start =>
    simp only [Database.answer, Database.keys, hE.scan, h part, Tables.answer, Tables.keysBeginning,
      OrderedMap.keys, List.filter_map]
    rfl
  | unreferenced part => rw [Database.answer, Shows.unreferenced hE h, Tables.answer]
  | _ =>
    simp only [Database.answer, Database.get, Database.contains, Database.mayContain,
      Database.count, Database.first, Database.last, Database.next, Database.previous, hE.get,
      hE.contains, hE.size, hE.first, hE.last, hE.above, hE.below, h _, Tables.answer]

end Database

/-! ## The same changes of both -/

namespace Provider

/-- The provider after several changes, whatever they answered. -/
def changeAll (p : Provider) (cs : List Change) : Provider := cs.foldl (fun p c => (p.change c).2) p

theorem FaultFree.changeAll {p : Provider} (h : p.FaultFree) (cs : List Change) :
    p.changeAll cs = p.changed cs := by
  induction cs using List.reverseRecOn with
  | nil => rfl
  | append_singleton cs c ih =>
    rw [Provider.changeAll, List.foldl_concat, ← Provider.changeAll, ih, (h.changed cs).change]
    simp [Provider.changed, Tables.changed_append, Nat.add_assoc]

end Provider

/-- Both kinds of providers answer alike: whatever changes are made from no
    records on, a database can make them, and in whatever way it does, every
    question has the same answer from the provider in memory, from the
    provider of the database and from the trees.  It is the plain answer on
    the records that the changes leave. -/
theorem Database.answers_as_memory {E : TreeEngine τ} {view : τ → Table}
    (hE : E.IsOrderedMap view) (cs : List Change) :
    (∃ d, (fresh E).Run E cs d) ∧
    ∀ d, (fresh E).Run E cs d → ∀ q,
      (Provider.memory.start.2.changeAll cs).answer q = .ok (d.answer E q) ∧
      (Provider.database.start.2.changeAll cs).answer q = .ok (d.answer E q) ∧
      d.answer E q = (Tables.changed .empty cs).answer q := by
  refine ⟨exists_run E (fresh E) cs, ?_⟩
  intro d hrun q
  have hplain : d.answer E q = (Tables.changed .empty cs).answer q :=
    Shows.answer hE (Shows.run hE (shows_fresh hE) hrun) q
  have hprovider : ∀ {p : Provider}, p.FaultFree → p.vague = false → p.tables = .empty →
      (p.changeAll cs).answer q = .ok (d.answer E q) := by
    intro p hp hexact hempty
    rw [hp.changeAll, (hp.changed cs).answer hexact, hplain, ← hempty]
    rfl
  exact ⟨hprovider ⟨fun _ _ => rfl, rfl⟩ rfl rfl, hprovider ⟨fun _ _ => rfl, rfl⟩ rfl rfl, hplain⟩

/-- Tables are such trees themselves. -/
def Table.engine : TreeEngine Table where
  new := .empty
  insert t key value := t.insert key value
  remove t key := t.erase key
  apply t b := b.insertInto t
  get t key := t.get? key
  contains t key := t.contains key
  size t := t.size
  first t := t.first?
  last t := t.last?
  above t key := t.next? key
  below t key := t.previous? key
  entries t := t.entries
  scan t start := t.entries.filter fun e => start.isPrefixOf e.1

theorem Table.isOrderedMap_engine : engine.IsOrderedMap id where
  new := rfl
  insert _ _ _ := rfl
  remove _ _ := rfl
  apply t b key := OrderedMap.get?_foldl_insert t b key
  get _ _ := rfl
  contains _ _ := rfl
  size _ := rfl
  first _ := rfl
  last _ := rfl
  above _ _ := rfl
  below t key := OrderedMap.previous?_eq_find? t key
  entries _ := rfl
  scan _ _ := rfl

/-- An empty key, keys that begin with one another, a key written twice in
    one batch and a reference that is removed again. -/
theorem Database.answers_as_memory_nested_keys :
    let cs : List Change := [
      .saveAll [⟨.transaction, [1], [8]⟩, ⟨.approvers, [1, 3, 9], []⟩, ⟨.transaction, [1, 3], []⟩,
        ⟨.transaction, [1], [9]⟩, ⟨.transaction, [1, 4], []⟩],
      .save .transaction [] [7], .save .approvers [1, 4, 0] [], .delete .approvers [1, 4, 0]]
    ∃ d, (fresh Table.engine).Run Table.engine cs d ∧
      (Provider.memory.start.2.changeAll cs).answer (.unreferenced .transaction) =
        .ok (d.answer Table.engine (.unreferenced .transaction)) ∧
      d.answer Table.engine (.unreferenced .transaction) = .keys [[1, 4]] := by
  intro cs
  obtain ⟨⟨d, hrun⟩, hall⟩ := answers_as_memory Table.isOrderedMap_engine cs
  obtain ⟨hmemory, -, hplain⟩ := hall d hrun (.unreferenced .transaction)
  refine ⟨d, hrun, hmemory, ?_⟩
  rw [hplain]
  decide

end TernaryGossip
