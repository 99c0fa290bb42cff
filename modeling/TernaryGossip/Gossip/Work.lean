import TernaryGossip.Gossip.Neighbor
import TernaryGossip.Gossip.WeightQueue
import TernaryGossip.Transaction.Basic

/-!
# Queued work

    A node queues three kinds of work: transactions to pass on, transactions
    received from a neighbor and not stored yet, and requests of a neighbor
    for a transaction.  Each has a priority, and work of one kind for the
    same hash and from the same address counts as the same work.
-/

namespace TernaryGossip

/-- The priority of a transaction to pass on. -/
def Transaction.priority (t : Transaction) : Priority := ⟨t.weight, t.hash, none⟩

/-- A transaction and the neighbor that it came from. -/
structure Received where
  /-- The transaction. -/
  transaction : Transaction
  /-- The neighbor. -/
  neighbor : Neighbor

namespace Received

/-- The priority of a received transaction. -/
def priority (r : Received) : Priority :=
  ⟨r.transaction.weight, r.transaction.hash, some r.neighbor.address⟩

/-- The text of a received transaction in messages. -/
def text (r : Received) : String :=
  "ReceivedTransaction \x7b hash: " ++ r.transaction.hash.shortForm ++ ", neighbor: " ++
    r.neighbor.address.text ++ " \x7d"

end Received

/-- A hash and the neighbor that asks for it.  The null hash asks for any tip. -/
structure Request where
  /-- The hash. -/
  hash : Hash
  /-- The neighbor. -/
  neighbor : Neighbor

namespace Request

/-- The priority of a request. -/
def priority (r : Request) : Priority := ⟨r.hash.weight, r.hash, some r.neighbor.address⟩

/-- The text of a request in messages. -/
def text (r : Request) : String :=
  "ReplyRequest \x7b hash: " ++ r.hash.shortForm ++ ", neighbor: " ++ r.neighbor.address.text ++
    " \x7d"

end Request

/-- The text of a queue in messages. -/
def WeightQueue.text {α : Type} (q : WeightQueue α) : String :=
  "WeightQueue \x7b len: " ++ toString q.size ++ ", capacity: " ++ toString q.capacity ++ " \x7d"

end TernaryGossip
