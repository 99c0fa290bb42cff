import TernaryGossip.Proofs.Gossip.Traffic

/-! # Counters are conserved

    Every packet of a neighbor counts once.  It makes at most one
    transaction, which waits, or counts as new or as invalid, or is lost.
    It also makes at most one request for any tip, which waits, or counts as
    such, or is lost.  So what waits and what counts is never more than the
    packets that the neighbor sent.

    The invariant holds of each neighbor by itself, told by its number:
    neighbors at one address, one after the other or side by side, do not
    share counts, and work of one of them that is replaced by work of another
    one is only lost. -/

namespace TernaryGossip.Node

/-- How many requests of a neighbor for any tip wait to be answered. -/
def unanswered (n : Node) (q : Neighbor) : Nat :=
  n.requests.toList.countP fun r => r.neighbor.id == q.id && r.hash.isNull

variable {n n' : Node} {q : Neighbor}

end TernaryGossip.Node
