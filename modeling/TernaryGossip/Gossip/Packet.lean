import TernaryGossip.Gossip.Neighbor
import TernaryGossip.Hash

/-!
# Packets

    A packet is a payload followed by a requested hash.  It shares a
    transaction and asks for another one.  Asking for the hash of the very
    transaction that it carries means to ask for any tip.

    A link hands packets to neighbors.  It may know only one transport, and
    it may fail for some addresses.
-/

namespace TernaryGossip

namespace Packet

/-- A packet of a payload, cut or filled with zeros to its size, and a
requested hash. -/
def encode (payload : Bytes) (request : Hash) : Bytes := Bytes.fit 1604 payload ++ request.bytes

/-- The payload of a packet. -/
def payload (packet : Bytes) : Bytes := packet.take 1604

/-- The hash that a packet asks for. -/
def request (packet : Bytes) : Hash := Hash.ofBytes (packet.drop 1604)

@[simp] theorem length_encode (p : Bytes) (h : Hash) : (encode p h).length = 1653 := by
  simp [encode, h.length_bytes]

theorem payload_encode {p : Bytes} (h : Hash) (hp : p.length = 1604) : payload (encode p h) = p := by
  rw [payload, encode, Bytes.fit_of_length hp, List.take_left' hp]

@[simp] theorem request_encode (p : Bytes) (h : Hash) : request (encode p h) = h := by
  have : (Bytes.fit 1604 p ++ h.bytes).drop 1604 = h.bytes :=
    List.drop_left' (Bytes.length_fit 1604 p)
  simp [request, encode, this]

end Packet

/-- Why a packet is not handed over. -/
inductive SendError
  /-- The link does not know the transport. -/
  | unsupported (kind : TransportKind)
  /-- The address cannot be reached. -/
  | unreachable
  deriving DecidableEq, Repr

/-- The text shown for an error. -/
def SendError.message : SendError → String
  | .unsupported kind => kind.scheme ++ " neighbors are not supported by this transport"
  | .unreachable => "transport i/o: the address cannot be reached"

/-- What hands packets to neighbors. -/
structure Link where
  /-- Only datagrams are handed over. -/
  datagramsOnly : Bool
  /-- The addresses that cannot be reached. -/
  unreachable : List SocketAddress
  deriving DecidableEq, Repr

/-- What happens to a packet for a neighbor. -/
def Link.send (l : Link) (n : Neighbor) : Except SendError Unit :=
  if l.datagramsOnly ∧ n.kind ≠ .datagram then .error (.unsupported n.kind)
  else if n.address ∈ l.unreachable then .error .unreachable
  else .ok ()

/-- A packet that was handed over. -/
structure Delivery where
  /-- The neighbor that it went to. -/
  neighbor : Neighbor
  /-- The packet. -/
  packet : Bytes

end TernaryGossip
