import TernaryGossip.Hash
import TernaryGossip.Digest.Sha256
import TernaryGossip.Gossip.Recent

/-!
# What was seen before

    Neighbors send the same transactions over and over.  A node remembers
    the fingerprints of recent payloads, each with the hash that the payload
    has, and the hashes that it recently put into its store.

    Lookups of fingerprints are counted.  After 50000 of them the counts
    start again from zero.
-/

namespace TernaryGossip

/-- The memory of recent payloads and stored hashes. -/
structure Seen where
  /-- Hashes that were put into the store. -/
  hashes : Recent Hash Unit
  /-- The hashes of payloads, under the fingerprints of the payloads. -/
  packets : Recent Bytes Hash
  /-- Lookups that found a fingerprint. -/
  hits : Nat
  /-- Lookups that did not. -/
  misses : Nat

namespace Seen

/-- The number of lookups after which the counts start again. -/
def statsInterval : Nat := 50000

/-- An empty memory. -/
def empty (hashCapacity packetCapacity : Nat) : Seen :=
  ⟨.empty hashCapacity, .empty packetCapacity, 0, 0⟩

/-- Counts one lookup. -/
def count (s : Seen) (hit : Bool) : Seen :=
  let hits := if hit then s.hits + 1 else s.hits
  let misses := if hit then s.misses else s.misses + 1
  if hits + misses < statsInterval then { s with hits, misses } else { s with hits := 0, misses := 0 }

/-- Looks a fingerprint up, which refreshes it. -/
def lookupPacket (s : Seen) (digest : Bytes) : Option Hash × Seen :=
  let (found, packets) := s.packets.touch? digest
  (found, { s with packets }.count found.isSome)

/-- Remembers the hash of a payload. -/
def insertPacket (s : Seen) (digest : Bytes) (hash : Hash) : Seen :=
  { s with packets := s.packets.put digest hash }

/-- Remembers a hash; says whether it was remembered already. -/
def insertHash (s : Seen) (hash : Hash) : Bool × Seen :=
  (s.hashes.contains hash, { s with hashes := s.hashes.put hash () })

/-- The hash was put into the store recently. -/
def containsHash (s : Seen) (hash : Hash) : Bool := s.hashes.contains hash

end Seen

end TernaryGossip
