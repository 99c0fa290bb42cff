import TernaryGossip.Number.Binary64

/-!
# Settings of the gossip

    Everything that an operator can choose about the exchange of
    transactions, with the values that hold when nothing is chosen.
-/

namespace TernaryGossip

/-- What an operator can choose. -/
structure GossipConfig where
  /-- The URIs of the neighbors. -/
  neighbors : List String
  /-- The probability that a packet is dropped unread. -/
  dropChance : Binary64
  /-- The probability that a packet asks for the latest milestone. -/
  selectMilestoneChance : Binary64
  /-- The probability that a request for any tip is answered by the latest milestone. -/
  sendMilestoneChance : Binary64
  /-- Unknown senders become neighbors. -/
  permissive : Bool
  /-- How many transactions wait to be passed on. -/
  broadcastCapacity : Nat
  /-- How many transactions wait to be stored. -/
  receiveCapacity : Nat
  /-- How many requests wait to be answered. -/
  replyCapacity : Nat
  /-- How many stored hashes are remembered. -/
  seenHashesCapacity : Nat
  /-- How many payloads are remembered. -/
  seenPacketsCapacity : Nat
  /-- The pause between two transactions, in milliseconds. -/
  pauseMillis : Nat
  /-- The time between two rounds of requests for tips, in milliseconds. -/
  tipRequestMillis : Nat
  /-- The time between two look-ups of host names, in milliseconds. -/
  nameRefreshMillis : Nat
  deriving DecidableEq, Repr

namespace GossipConfig

/-- The settings when nothing is chosen. -/
def standard : GossipConfig :=
  { neighbors := []
    dropChance := .ofDecimal false 0 0
    selectMilestoneChance := .ofDecimal false 7 (-1)
    sendMilestoneChance := .ofDecimal false 2 (-2)
    permissive := false
    broadcastCapacity := 1000
    receiveCapacity := 1000
    replyCapacity := 1000
    seenHashesCapacity := 5000
    seenPacketsCapacity := 15000
    pauseMillis := 1
    tipRequestMillis := 5000
    nameRefreshMillis := 1800000 }

instance : Inhabited GossipConfig := ⟨standard⟩

end GossipConfig

end TernaryGossip
