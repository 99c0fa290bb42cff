import TernaryGossip.Gossip.NeighborUri

/-!
# Neighbors

    A neighbor is a peer with a URI and a socket address.  Its identity is
    a number that no other neighbor of the roster has: two neighbors with
    the same address are different neighbors, and traffic is counted for
    each of them, whether it is listed or not.

    The roster lists the neighbors that packets are exchanged with.  No
    second neighbor with the same address and transport is added.
-/

namespace TernaryGossip

/-- A peer. -/
structure Neighbor where
  /-- The number that tells it from all others. -/
  id : Nat
  /-- The URI it was named by. -/
  uri : NeighborUri
  /-- The address that packets go to. -/
  address : SocketAddress
  /-- Named by the operator, not discovered. -/
  configured : Bool
  deriving DecidableEq, Repr

namespace Neighbor

/-- The transport. -/
def kind (n : Neighbor) : TransportKind := n.uri.kind

/-- The text of a neighbor in messages: its URI and its address. -/
def text (n : Neighbor) : String := n.uri.text ++ "/" ++ n.address.text

/-- The same peer by address and transport. -/
def sameEndpoint (n : Neighbor) (address : SocketAddress) (kind : TransportKind) : Bool :=
  n.address == address && n.kind == kind

/-- A packet from `sender` comes from this neighbor.  A datagram comes from
the very socket address; for a stream the internet address is enough, and
port, flow and scope do not matter. -/
def isSender (n : Neighbor) (sender : SocketAddress) (kind : TransportKind) : Bool :=
  n.kind == kind &&
    match kind with
    | .datagram => n.address == sender
    | .stream => n.address.ip == sender.ip

end Neighbor

/-- Counts of the traffic with one neighbor.

They have no bound here.  A counter of 64 bits starts again at 0 after
`2 ^ 64` packets and agrees with the count modulo that number. -/
structure Tally where
  /-- Packets received. -/
  all : Nat
  /-- Transactions that were new. -/
  fresh : Nat
  /-- Packets that were invalid. -/
  invalid : Nat
  /-- Requests for a random tip that were looked at. -/
  random : Nat
  deriving DecidableEq, Repr

/-- No traffic. -/
def Tally.zero : Tally := ⟨0, 0, 0, 0⟩

instance : Inhabited Tally := ⟨.zero⟩

/-- One of the counts. -/
inductive Counter
  /-- Packets received. -/
  | all
  /-- Transactions that were new. -/
  | fresh
  /-- Packets that were invalid. -/
  | invalid
  /-- Requests for a random tip. -/
  | random
  deriving DecidableEq, Repr

/-- Counts one more. -/
def Tally.bump (t : Tally) : Counter → Tally
  | .all => { t with all := t.all + 1 }
  | .fresh => { t with fresh := t.fresh + 1 }
  | .invalid => { t with invalid := t.invalid + 1 }
  | .random => { t with random := t.random + 1 }

/-- The listed neighbors and the counts of all neighbors ever made. -/
structure Roster where
  /-- The neighbors that packets are exchanged with, in order. -/
  listed : List Neighbor
  /-- The counts of every neighbor, by its number. -/
  tallies : List Tally

namespace Roster

/-- No neighbors. -/
def empty : Roster := ⟨[], []⟩

instance : Inhabited Roster := ⟨empty⟩

/-- The counts of a neighbor. -/
def tally (r : Roster) (n : Neighbor) : Tally := r.tallies.getD n.id .zero

/-- Counts one more for a neighbor. -/
def bump (r : Roster) (n : Neighbor) (c : Counter) : Roster :=
  { r with tallies := r.tallies.modify n.id (·.bump c) }

/-- A neighbor that did not exist before, not listed yet. -/
def make (r : Roster) (uri : NeighborUri) (address : SocketAddress) (configured : Bool) :
    Neighbor × Roster :=
  (⟨r.tallies.length, uri, address, configured⟩, { r with tallies := r.tallies ++ [.zero] })

/-- A neighbor that made itself known by a packet. -/
def makeDiscovered (r : Roster) (kind : TransportKind) (address : SocketAddress) :
    Neighbor × Roster :=
  r.make (.ofAddress kind address) address false

/-- Lists a neighbor unless one with the same address and transport is. -/
def add (r : Roster) (n : Neighbor) : Bool × Roster :=
  if r.listed.any (·.sameEndpoint n.address n.kind) then (false, r)
  else (true, { r with listed := r.listed ++ [n] })

/-- Strikes every neighbor with this address and transport. -/
def remove (r : Roster) (address : SocketAddress) (kind : TransportKind) : Bool × Roster :=
  (r.listed.any (·.sameEndpoint address kind),
    { r with listed := r.listed.filter fun n => !n.sameEndpoint address kind })

/-- Puts a neighbor in the place of another one. -/
def replace (r : Roster) (old new : Neighbor) : Bool × Roster :=
  match r.listed.findIdx? (·.id == old.id) with
  | some i => (true, { r with listed := r.listed.set i new })
  | none => (false, r)

/-- The first listed neighbor that a packet from `sender` comes from. -/
def find? (r : Roster) (sender : SocketAddress) (kind : TransportKind) : Option Neighbor :=
  r.listed.find? (·.isSender sender kind)

end Roster

end TernaryGossip
