/-!
# Partitions

    A store keeps eight families of records apart.  Within a partition,
    records are found by their keys alone.
-/

namespace TernaryGossip

/-- A family of records. -/
inductive Partition
  /-- Payloads, under the hash of the transaction. -/
  | transaction
  /-- Metadata, one record per fact, under the hash and a tag byte. -/
  | transactionMetadata
  /-- Empty records under a parent and the transaction that refers to it. -/
  | approvers
  /-- Empty records under an address and a transaction that carries it. -/
  | address
  /-- Empty records under a bundle and a transaction that carries it. -/
  | bundle
  /-- Empty records under a tag and a transaction that carries it. -/
  | tag
  /-- Milestones, under their index. -/
  | milestone
  /-- Changes of the ledger, under the hash of their milestone. -/
  | stateDiff
  deriving DecidableEq, Repr

namespace Partition

/-- Every partition, in the order of their numbers. -/
def all : List Partition :=
  [.transaction, .transactionMetadata, .approvers, .address, .bundle, .tag, .milestone, .stateDiff]

/-- The position of a partition among all. -/
def number : Partition → Nat
  | .transaction => 0
  | .transactionMetadata => 1
  | .approvers => 2
  | .address => 3
  | .bundle => 4
  | .tag => 5
  | .milestone => 6
  | .stateDiff => 7

/-- The partition of a number. -/
def ofNumber? (n : Nat) : Option Partition := all[n]?

@[simp] theorem ofNumber?_number (p : Partition) : ofNumber? p.number = some p := by
  cases p <;> rfl

/-- The stable name of a partition. -/
def name : Partition → String
  | .transaction => "transaction"
  | .transactionMetadata => "transaction-metadata"
  | .approvers => "approvers"
  | .address => "address"
  | .bundle => "bundle"
  | .tag => "tag"
  | .milestone => "milestone"
  | .stateDiff => "state-diff"

/-- The name of a partition in a structured text. -/
def caption : Partition → String
  | .transaction => "Transaction"
  | .transactionMetadata => "TransactionMetadata"
  | .approvers => "Approvers"
  | .address => "Address"
  | .bundle => "Bundle"
  | .tag => "Tag"
  | .milestone => "Milestone"
  | .stateDiff => "StateDiff"

/-- The partition whose keys refer to the keys of this one: a transaction is
referred to once something approves it. -/
def references : Partition → Option Partition
  | .transaction => some .approvers
  | _ => none

instance : Ord Partition := ⟨fun a b => compare a.number b.number⟩

theorem compare_def (a b : Partition) : compare a b = compare a.number b.number := rfl

theorem number_inj {a b : Partition} (h : a.number = b.number) : a = b := by
  have := congrArg ofNumber? h
  simpa using this

instance : Std.TransOrd Partition where
  eq_swap {a b} := Std.OrientedOrd.eq_swap (a := a.number) (b := b.number)
  isLE_trans {a b c} hab hbc :=
    Std.TransOrd.isLE_trans (a := a.number) (b := b.number) (c := c.number) hab hbc

instance : Std.LawfulEqOrd Partition where
  compare_self {a} := Std.ReflOrd.compare_self (a := a.number)
  eq_of_compare {a b} h :=
    number_inj (Std.LawfulEqOrd.eq_of_compare (a := a.number) (b := b.number) h)

end Partition

end TernaryGossip
