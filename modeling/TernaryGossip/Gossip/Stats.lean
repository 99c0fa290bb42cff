import TernaryGossip.Gossip.Node

/-!
# Figures of a node

    What can be told about a node in numbers: how much work waits in its
    queues, how many hashes it asks for, how often a payload was seen before,
    and the traffic with each of its neighbors.
-/

namespace TernaryGossip

/-- Figures of the exchange of transactions. -/
structure GossipStats where
  /-- The number of neighbors. -/
  neighbors : Nat
  /-- The transactions to store. -/
  received : Nat
  /-- The transactions to pass on. -/
  outgoing : Nat
  /-- The requests to answer. -/
  requests : Nat
  /-- The hashes to ask for. -/
  wanted : Nat
  /-- Look-ups of payloads that were seen before. -/
  hits : Nat
  /-- Look-ups of payloads that were not. -/
  misses : Nat
  deriving DecidableEq, Repr

namespace GossipStats

/-- Nothing waits for its turn in any queue. -/
def isIdle (s : GossipStats) : Bool := s.received == 0 && s.outgoing == 0 && s.requests == 0

end GossipStats

namespace Node

/-- The figures of a node. -/
def stats (n : Node) : GossipStats :=
  { neighbors := n.roster.listed.length
    received := n.received.size
    outgoing := n.outgoing.size
    requests := n.requests.size
    wanted := n.wanted.size
    hits := n.seen.hits
    misses := n.seen.misses }

/-- The traffic with each listed neighbor, in order. -/
def traffic (n : Node) : List (Neighbor × Tally) := n.roster.listed.map fun m => (m, n.roster.tally m)

/-- The sum of a count over all listed neighbors. -/
def total (n : Node) (count : Tally → Nat) : Nat := (n.traffic.map fun m => count m.2).foldr (· + ·) 0

end Node

end TernaryGossip
