import TernaryGossip.Store.Provider

/-!
# Databases of trees

    A database keeps one tree of records for each partition.  Trees come
    from an engine, which is known by its operations only; it takes single
    insertions and removals, and several insertions at a time as a batch.

    Records that are written together are first grouped by their partitions,
    in the order in which they come; each group is then one batch for its
    tree.  The groups may be applied in any order.
-/

namespace TernaryGossip

/-- Insertions for one tree, in their order. -/
abbrev Batch := List (Bytes × Bytes)

/-- The operations of a kind of trees. -/
structure TreeEngine (τ : Type) where
  /-- A tree without entries. -/
  new : τ
  /-- Inserts an entry. -/
  insert : τ → Bytes → Bytes → τ
  /-- Removes the entry of a key. -/
  remove : τ → Bytes → τ
  /-- Makes all insertions of a batch at once. -/
  apply : τ → Batch → τ
  /-- The value under a key. -/
  get : τ → Bytes → Option Bytes
  /-- There is an entry under a key. -/
  contains : τ → Bytes → Bool
  /-- The number of entries. -/
  size : τ → Nat
  /-- The first entry. -/
  first : τ → Option (Bytes × Bytes)
  /-- The last entry. -/
  last : τ → Option (Bytes × Bytes)
  /-- The first entry above a key. -/
  above : τ → Bytes → Option (Bytes × Bytes)
  /-- The last entry below a key. -/
  below : τ → Bytes → Option (Bytes × Bytes)
  /-- All entries. -/
  entries : τ → List (Bytes × Bytes)
  /-- The entries whose keys have a common beginning. -/
  scan : τ → Bytes → List (Bytes × Bytes)

/-- A tree for each partition. -/
structure Database (τ : Type) where
  /-- The tree of a partition. -/
  tree : Partition → τ

namespace Database

variable {τ : Type} (E : TreeEngine τ) (d : Database τ)

/-! ## Writing -/

/-- A database with new trees. -/
def fresh : Database τ := ⟨fun _ => E.new⟩

/-- The database with another tree for a partition. -/
def setTree (part : Partition) (t : τ) : Database τ :=
  ⟨fun q => if q = part then t else d.tree q⟩

/-- Writes a record. -/
def save (part : Partition) (key value : Bytes) : Database τ :=
  d.setTree part (E.insert (d.tree part) key value)

/-- Removes a record. -/
def delete (part : Partition) (key : Bytes) : Database τ :=
  d.setTree part (E.remove (d.tree part) key)

/-- Adds a record to the batch of its partition, or begins one. -/
def addTo (r : Put) : List (Partition × Batch) → List (Partition × Batch)
  | [] => [(r.partition, [(r.key, r.value)])]
  | g :: gs =>
      if g.1 = r.partition then (g.1, g.2 ++ [(r.key, r.value)]) :: gs else g :: addTo r gs

/-- The batches of several records, one for each partition that has any. -/
def batches (rs : List Put) : List (Partition × Batch) := rs.foldl (fun gs r => addTo r gs) []

/-- Applies several batches to their trees, one after another. -/
def applyAll (gs : List (Partition × Batch)) : Database τ :=
  gs.foldl (fun d g => d.setTree g.1 (E.apply (d.tree g.1) g.2)) d

/-! ## Reading -/

/-- The value under a key. -/
def get (part : Partition) (key : Bytes) : Option Bytes := E.get (d.tree part) key

/-- A record is there. -/
def contains (part : Partition) (key : Bytes) : Bool := E.contains (d.tree part) key

/-- A record might be there, which is known exactly. -/
def mayContain (part : Partition) (key : Bytes) : Bool := d.contains E part key

/-- The number of records. -/
def count (part : Partition) : Nat := E.size (d.tree part)

/-- The record with the least key. -/
def first (part : Partition) : Option (Bytes × Bytes) := E.first (d.tree part)

/-- The record with the greatest key. -/
def last (part : Partition) : Option (Bytes × Bytes) := E.last (d.tree part)

/-- The record with the least key above a key. -/
def next (part : Partition) (key : Bytes) : Option (Bytes × Bytes) := E.above (d.tree part) key

/-- The record with the greatest key below a key. -/
def previous (part : Partition) (key : Bytes) : Option (Bytes × Bytes) := E.below (d.tree part) key

/-- The keys that begin with `start`, in order. -/
def keys (part : Partition) (start : Bytes) : List Bytes := (E.scan (d.tree part) start).map (·.1)

/-- The keys for which a scan of the references finds nothing, in order. -/
def unreferenced (part : Partition) : List Bytes :=
  match part.references with
  | none => []
  | some references =>
      ((E.entries (d.tree part)).map (·.1)).filter fun key =>
        (E.scan (d.tree references) key).head?.isNone

end Database

end TernaryGossip
