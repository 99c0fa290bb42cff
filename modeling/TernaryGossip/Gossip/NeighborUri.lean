import TernaryGossip.Text.Blank
import TernaryGossip.Text.Quoted
import TernaryGossip.Url.Basic

/-!
# Neighbor URIs

    The operator names neighbors by URIs such as `udp://host:port` and
    `tcp://host:port`.  A neighbor URI is a URL of one of these two schemes
    with a host and an explicit port and with nothing else: no user, no
    path but `/`, no query and no fragment.  The scheme is looked at first.

    Its text has the address of a host with colons in brackets, so that it
    reads back as the same URI.

    A host that is spelled as a number has neither a flow nor a scope; a
    name may stand for an address that has them.
-/

namespace TernaryGossip

/-- How packets reach a neighbor. -/
inductive TransportKind
  /-- One packet per datagram. -/
  | datagram
  /-- Packets on a stream. -/
  | stream
  deriving DecidableEq, Repr

/-- The scheme of a transport. -/
def TransportKind.scheme : TransportKind → String
  | .datagram => "udp"
  | .stream => "tcp"

/-- The name of a transport in a structured text. -/
def TransportKind.caption : TransportKind → String
  | .datagram => "Datagram"
  | .stream => "Stream"

/-- Why an entry of the configuration names no neighbor. -/
inductive ConfigError
  /-- The text is not a neighbor URI. -/
  | invalidUri (uri : String)
  /-- The scheme is neither of the two. -/
  | unsupportedScheme (scheme : String)
  /-- The host has no address. -/
  | unresolvable (host reason : String)
  deriving DecidableEq, Repr

/-- The text shown for an error. -/
def ConfigError.message : ConfigError → String
  | .invalidUri uri =>
      "invalid neighbor uri " ++ Text.quoted uri ++ ": expected udp://host:port or tcp://host:port"
  | .unsupportedScheme scheme => "unsupported scheme " ++ Text.quoted scheme
  | .unresolvable host reason => "cannot resolve neighbor host " ++ host ++ ": " ++ reason

/-- A transport, a host and a port. -/
structure NeighborUri where
  /-- The transport. -/
  kind : TransportKind
  /-- The host, without brackets. -/
  host : String
  /-- The port. -/
  port : UInt16
  deriving DecidableEq, Repr

namespace NeighborUri

/-- The text of a URI. -/
def text (u : NeighborUri) : String :=
  if u.host.toList.contains ':' then
    u.kind.scheme ++ "://[" ++ u.host ++ "]:" ++ toString u.port.toNat
  else u.kind.scheme ++ "://" ++ u.host ++ ":" ++ toString u.port.toNat

/-- The transport of a scheme. -/
def kind? (scheme : String) : Option TransportKind :=
  if scheme = "udp" then some .datagram
  else if scheme = "tcp" then some .stream
  else none

/-- The host of a URL, without brackets. -/
def hostText : Url.Host → String
  | .domain name => name
  | .address ip => ip.text

/-- The host and port of a URL that holds nothing else. -/
def ofUrl? (kind : TransportKind) (url : Url) : Option NeighborUri :=
  if url.username ≠ "" ∨ url.password.isSome ∨ ¬(url.path = "" ∨ url.path = "/") ∨
      url.query.isSome ∨ url.fragment.isSome then none
  else
    match url.host, url.port with
    | some host, some port => some ⟨kind, hostText host, port⟩
    | _, _ => none

/-- Reads a neighbor URI. -/
def parse (s : String) : Except ConfigError NeighborUri :=
  match Url.parse? (Text.trim s) with
  | none => .error (.invalidUri s)
  | some url =>
      match kind? url.scheme with
      | none => .error (.unsupportedScheme url.scheme)
      | some kind =>
          match ofUrl? kind url with
          | none => .error (.invalidUri s)
          | some uri => .ok uri

/-- What a host name stands for; `none` if nobody knows. -/
abbrev Resolver := String → Option ScopedAddress

/-- Knows no name but that of the own machine; its case does not matter. -/
def Resolver.own : Resolver := fun name =>
  if name.toLower = "localhost" then some .loopback else none

/-- The socket address of a URI: the address its host spells, or else the one
that the name stands for. -/
def resolve (names : Resolver) (u : NeighborUri) : Except ConfigError SocketAddress :=
  match IpAddress.ofText? u.host with
  | some ip => .ok ⟨.ofIp ip, u.port⟩
  | none =>
      match names u.host with
      | some host => .ok ⟨host, u.port⟩
      | none => .error (.unresolvable u.host "no addresses returned")

/-- The URI of a socket address; it does not show the flow and the scope. -/
def ofAddress (kind : TransportKind) (a : SocketAddress) : NeighborUri :=
  ⟨kind, a.ip.text, a.port⟩

end NeighborUri

end TernaryGossip
