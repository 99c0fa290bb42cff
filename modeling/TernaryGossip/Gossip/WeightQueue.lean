import TernaryGossip.OrderedMap
import TernaryGossip.Gossip.Priority

/-!
# Bounded queues

    A queue holds items under their priorities and hands out the one that
    comes first.  Pushing an item under a priority that is already queued
    replaces the queued item; pushing into a full queue drops the item that
    comes last, which may be the one just pushed.
-/

namespace TernaryGossip

/-- Items under their priorities, at most `capacity` of them. -/
structure WeightQueue (α : Type) where
  /-- The queued items, the first to be handed out in front. -/
  items : OrderedMap Priority α
  /-- How many items fit, at least one. -/
  capacity : Nat

namespace WeightQueue

variable {α : Type}

/-- The empty queue for `capacity` items; a queue always holds one. -/
def empty (capacity : Nat) : WeightQueue α := ⟨.empty, max capacity 1⟩

/-- The number of queued items. -/
def size (q : WeightQueue α) : Nat := q.items.size

/-- Nothing is queued. -/
def isEmpty (q : WeightQueue α) : Bool := q.items.isEmpty

/-- The queued items in the order in which they are handed out. -/
def toList (q : WeightQueue α) : List α := q.items.values

/-- Queues an item.  Yields the item that had to be dropped, if any. -/
def push (q : WeightQueue α) (p : Priority) (a : α) : Option α × WeightQueue α :=
  let items := q.items.insert p a
  if items.size > q.capacity then
    (items.last?.map (·.2), { q with items := items.dropLast })
  else (none, { q with items })

/-- Takes the item that comes first. -/
def pop? (q : WeightQueue α) : Option (α × WeightQueue α) :=
  q.items.first?.map fun e => (e.2, { q with items := q.items.dropFirst })

end WeightQueue

end TernaryGossip
