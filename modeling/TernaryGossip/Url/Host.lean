import TernaryGossip.Domain.Name
import TernaryGossip.Net.Address
import TernaryGossip.Text.Utf8
import TernaryGossip.Url.Percent

/-!
# Hosts

    The host of a URL is a domain name or an internet address.  How it is
    read depends on the scheme.

    Under a special scheme a host is percent-decoded and read as a domain
    name; if its last part is a number, all of it has to be an address of 32
    bits, in any of the old notations.
    Under every other scheme a host is opaque: it keeps its spelling, and
    only controls and characters outside of ASCII are percent-encoded.
    Addresses of 128 bits stand in brackets under all schemes.
-/

namespace TernaryGossip.Url

/-- The host of a URL. -/
inductive Host
  /-- A domain name, or an opaque host. -/
  | domain (name : String)
  /-- An address. -/
  | address (ip : IpAddress)
  deriving DecidableEq, Repr

namespace Host

/-- The text of a host inside of a URL. -/
def text : Host → String
  | .domain name => name
  | .address (.v4 bits) => IpAddress.octetText bits
  | .address (.v6 bits) => "[" ++ IpAddress.compressedText (IpAddress.groups bits) ++ "]"

/-! ## Addresses -/

/-- An address of 128 bits in brackets. -/
def bracketed? (cs : List Char) : Option Host :=
  match cs with
  | '[' :: rest =>
      match rest.getLast? with
      | some ']' =>
          match IpAddress.v6? rest.dropLast with
          | some (bits, []) => some (.address (.v6 bits))
          | _ => none
      | _ => none
  | _ => none

/-- The base and the digits of one part of an address of 32 bits. -/
def partDigits : List Char → Nat × List Char
  | '0' :: 'x' :: cs => (16, cs)
  | '0' :: 'X' :: cs => (16, cs)
  | '0' :: c :: cs => (8, c :: cs)
  | cs => (10, cs)

/-- One part of an address of 32 bits, in base ten, eight or sixteen. -/
def part? (cs : List Char) : Option Nat :=
  if cs.isEmpty then none
  else
    let (base, digits) := partDigits cs
    if digits.all fun c => (IpAddress.hexDigit? c).any (· < base) then
      some (digits.foldl (fun acc c => base * acc + (IpAddress.hexDigit? c).getD 0) 0)
    else none

/-- The parts of a domain name; one empty part at the end is left out. -/
def parts (name : List Char) : List (List Char) :=
  let all := Text.pieces (· == '.') name
  if all.length > 1 ∧ all.getLast? = some [] then all.dropLast else all

/-- The last part of a domain name is a number. -/
def endsInNumber (name : List Char) : Bool :=
  match (parts name).getLast? with
  | none => false
  | some last => (!last.isEmpty && last.all Char.isDigit) || (part? last).isSome

/-- The address that the parts of a name spell: all but the last are bytes,
and the last fills the remaining ones. -/
def ofParts? (ps : List (List Char)) : Option (BitVec 32) := do
  let ns ← ps.mapM part?
  let last ← ns.getLast?
  let front := ns.dropLast
  let room := Nat.pow 256 (4 - front.length)
  if ps.length > 4 ∨ front.any (· > 255) ∨ last ≥ room then none
  else some (BitVec.ofNat 32 (front.foldl (fun acc n => 256 * acc + n) 0 * room + last))

/-! ## Reading -/

/-- Reads the host of a special scheme. -/
def special? (cs : List Char) : Option Host :=
  if cs.head? = some '[' then bracketed? cs
  else
    match Utf8.read (Percent.decode (Bytes.ofText (String.ofList cs))) with
    | .error _ => none
    | .ok text =>
        match Domain.written? text.toList with
        | none => none
        | some name =>
            if name.isEmpty then none
            else if endsInNumber name then (ofParts? (parts name)).map fun b => .address (.v4 b)
            else some (.domain (String.ofList name))

/-- Characters that no opaque host may contain. -/
def forbiddenVerbatim (c : Char) : Bool :=
  ['\x00', '\t', '\n', '\r', ' ', '#', '/', ':', '<', '>', '?', '@', '[', '\\', ']', '^',
    '|'].contains c

/-- Reads the host of any other scheme. -/
def verbatim? (cs : List Char) : Option Host :=
  if cs.head? = some '[' then bracketed? cs
  else if cs.any forbiddenVerbatim then none
  else some (.domain (String.ofList (Percent.encode Percent.control cs)))

end Host

end TernaryGossip.Url
