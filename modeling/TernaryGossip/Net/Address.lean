/-!
# Addresses

    An internet address is a number of 32 or of 128 bits.  It has a
    canonical text: four decimal numbers with dots, or eight groups of
    hexadecimal digits with colons in which the longest run of at least two
    zero groups is left out.  A 128-bit address that wraps a 32-bit one
    shows the latter in decimal.

    A socket address joins an internet address with a port, and one of 128
    bits also with a flow and a scope: two sockets on different links may
    have the same number.  Sockets are the same only if all four agree.  The
    text shows the scope unless it is 0, and never the flow.

    Socket addresses are ordered: 32-bit addresses first, then by the
    number, the port, the flow and the scope.
-/

namespace TernaryGossip

/-- An internet address. -/
inductive IpAddress
  /-- A 32-bit address. -/
  | v4 (bits : BitVec 32)
  /-- A 128-bit address. -/
  | v6 (bits : BitVec 128)
  deriving DecidableEq, Repr

/-- An internet address as a socket has it. -/
inductive ScopedAddress
  /-- A 32-bit address. -/
  | v4 (bits : BitVec 32)
  /-- A 128-bit address with its flow and its scope. -/
  | v6 (bits : BitVec 128) (flow scope : UInt32)
  deriving DecidableEq, Repr

/-- An internet address, for one of 128 bits also a flow and a scope, and a
port. -/
structure SocketAddress where
  /-- The address. -/
  host : ScopedAddress
  /-- The port. -/
  port : UInt16
  deriving DecidableEq, Repr

namespace IpAddress

/-! ## Parts -/

/-- The four bytes of a 32-bit address, most significant first. -/
def octets (bits : BitVec 32) : List Nat :=
  [bits.toNat / 16777216 % 256, bits.toNat / 65536 % 256, bits.toNat / 256 % 256, bits.toNat % 256]

/-- The number of four bytes, most significant first. -/
def ofOctets (parts : List Nat) : BitVec 32 :=
  BitVec.ofNat 32 (parts.foldl (fun acc p => 256 * acc + p) 0)

/-- The eight groups of a 128-bit address, most significant first. -/
def groups (bits : BitVec 128) : List Nat :=
  (List.range 8).map fun i => bits.toNat / Nat.pow 65536 (7 - i) % 65536

/-- The number of eight groups, most significant first. -/
def ofGroups (parts : List Nat) : BitVec 128 :=
  BitVec.ofNat 128 (parts.foldl (fun acc p => 65536 * acc + p) 0)

/-- The loopback address of 32 bits. -/
def loopback : IpAddress := .v4 (ofOctets [127, 0, 0, 1])

/-! ## Text -/

/-- The decimal text of a 32-bit address. -/
def octetText (bits : BitVec 32) : String :=
  String.intercalate "." ((octets bits).map toString)

/-- A group in lower-case hexadecimal. -/
def groupText (n : Nat) : String := String.ofList (Nat.toDigits 16 n)

/-- Groups with colons between them. -/
def groupsText (parts : List Nat) : String := String.intercalate ":" (parts.map groupText)

/-- The number of zeros at the front. -/
def leadingZeros (parts : List Nat) : Nat := (parts.takeWhile (· == 0)).length

/-- The position and length of the longest run of zeros, the first of equals;
`start` is the position of the first group. -/
def longestZeros (start : Nat) : List Nat → Nat × Nat
  | [] => (0, 0)
  | p :: ps =>
      let here := leadingZeros (p :: ps)
      let later := longestZeros (start + 1) ps
      if here ≥ later.2 ∧ here > 0 then (start, here) else later

/-- Groups with colons, the longest run of at least two zeros left out. -/
def compressedText (parts : List Nat) : String :=
  let run := longestZeros 0 parts
  if run.2 > 1 then
    groupsText (parts.take run.1) ++ "::" ++ groupsText (parts.drop (run.1 + run.2))
  else groupsText parts

/-- The 128-bit address wraps a 32-bit one. -/
def isWrapped (bits : BitVec 128) : Bool := bits.toNat / 4294967296 == 65535

/-- The canonical text of an address. -/
def text : IpAddress → String
  | .v4 bits => octetText bits
  | .v6 bits =>
      if isWrapped bits then "::ffff:" ++ octetText (BitVec.ofNat 32 bits.toNat)
      else compressedText (groups bits)

/-! ## Reading -/

/-- The decimal digit of a character. -/
def digit? (c : Char) : Option Nat :=
  if '0' ≤ c ∧ c ≤ '9' then some (c.toNat - 48) else none

/-- The hexadecimal digit of a character. -/
def hexDigit? (c : Char) : Option Nat :=
  if '0' ≤ c ∧ c ≤ '9' then some (c.toNat - 48)
  else if 'a' ≤ c ∧ c ≤ 'f' then some (c.toNat - 87)
  else if 'A' ≤ c ∧ c ≤ 'F' then some (c.toNat - 55)
  else none

/-- Reads at least one and at most `limit` digits in `base`, as many as
there are; `none` without a digit, or when more than `limit` stand there. -/
def number? (read : Char → Option Nat) (base limit : Nat) (cs : List Char) :
    Option (Nat × List Char) :=
  let digits := cs.takeWhile fun c => (read c).isSome
  if digits.isEmpty ∨ digits.length > limit then none
  else some (digits.foldl (fun acc c => base * acc + (read c).getD 0) 0, cs.drop digits.length)

/-- Reads one byte of a decimal address; a number of several digits does
not start with zero. -/
def octet? (cs : List Char) : Option (Nat × List Char) := do
  let (n, rest) ← number? digit? 10 3 cs
  if n > 255 ∨ (cs.head? = some '0' ∧ cs.length - rest.length > 1) then none
  else some (n, rest)

/-- Reads a character that has to stand there. -/
def char? (c : Char) : List Char → Option (List Char)
  | [] => none
  | x :: rest => if x = c then some rest else none

/-- Reads a decimal address. -/
def v4? (cs : List Char) : Option (BitVec 32 × List Char) := do
  let (a, cs) ← octet? cs
  let (b, cs) ← octet? (← char? '.' cs)
  let (c, cs) ← octet? (← char? '.' cs)
  let (d, cs) ← octet? (← char? '.' cs)
  return (ofOctets [a, b, c, d], cs)

/-- Reads up to `limit` groups with colons between them; the last two may be
written as a decimal address.  Yields the groups, whether they end with
such an address, and the rest. -/
def groups? : Nat → Bool → List Char → List Nat × Bool × List Char
  | 0, _, cs => ([], false, cs)
  | limit + 1, first, cs =>
      let body := if first then some cs else char? ':' cs
      match (if limit = 0 then none else body >>= v4?) with
      | some (bits, rest) => ([bits.toNat / 65536, bits.toNat % 65536], true, rest)
      | none =>
          match body >>= number? hexDigit? 16 4 with
          | some (n, rest) =>
              let (more, dotted, rest) := groups? limit false rest
              (n :: more, dotted, rest)
          | none => ([], false, cs)

/-- Reads an address with colons. -/
def v6? (cs : List Char) : Option (BitVec 128 × List Char) :=
  let (front, dotted, rest) := groups? 8 true cs
  if front.length = 8 then some (ofGroups front, rest)
  else if dotted then none
  else do
    let rest ← char? ':' (← char? ':' rest)
    let (back, _, rest) := groups? (7 - front.length) true rest
    return (ofGroups (front ++ List.replicate (8 - front.length - back.length) 0 ++ back), rest)

/-- The address of a text. -/
def ofText? (s : String) : Option IpAddress :=
  match v4? s.toList with
  | some (bits, []) => some (.v4 bits)
  | _ =>
      match v6? s.toList with
      | some (bits, []) => some (.v6 bits)
      | _ => none

end IpAddress

namespace ScopedAddress

/-- The internet address. -/
def ip : ScopedAddress → IpAddress
  | v4 bits => .v4 bits
  | v6 bits _ _ => .v6 bits

/-- The flow; that of a 32-bit address is 0. -/
def flow : ScopedAddress → UInt32
  | v4 _ => 0
  | v6 _ flow _ => flow

/-- The scope; that of a 32-bit address is 0. -/
def scope : ScopedAddress → UInt32
  | v4 _ => 0
  | v6 _ _ scope => scope

/-- The internet address in no flow and no scope. -/
def ofIp : IpAddress → ScopedAddress
  | .v4 bits => v4 bits
  | .v6 bits => v6 bits 0 0

/-- The loopback address of 32 bits. -/
def loopback : ScopedAddress := .ofIp .loopback

/-- Only the flow and the scope are lost in the internet address. -/
theorem ofIp_ip_iff {a : ScopedAddress} : ofIp a.ip = a ↔ a.flow = 0 ∧ a.scope = 0 := by
  cases a with
  | v4 bits => exact ⟨fun _ => ⟨rfl, rfl⟩, fun _ => rfl⟩
  | v6 bits f s => simp [ip, ofIp, flow, scope, eq_comm]

end ScopedAddress

namespace SocketAddress

/-- The internet address of a socket. -/
def ip (a : SocketAddress) : IpAddress := a.host.ip

/-! ## Text -/

/-- The text of a scope behind a 128-bit address; none for scope 0. -/
def scopeText (scope : UInt32) : String :=
  if scope = 0 then "" else "%" ++ toString scope.toNat

/-- The canonical text of a socket address. -/
def text (a : SocketAddress) : String :=
  match a.host with
  | .v4 _ => a.ip.text ++ ":" ++ toString a.port.toNat
  | .v6 _ _ scope => "[" ++ a.ip.text ++ scopeText scope ++ "]:" ++ toString a.port.toNat

/-- Reads a scope if one stands there. -/
def scope? : List Char → Option (UInt32 × List Char)
  | '%' :: cs => do
      let (n, rest) ← IpAddress.number? IpAddress.digit? 10 cs.length cs
      if n < 4294967296 then some (UInt32.ofNat n, rest) else none
  | cs => some (0, cs)

/-- Reads a port, which ends the text. -/
def port? (cs : List Char) : Option UInt16 := do
  let (n, rest) ← IpAddress.number? IpAddress.digit? 10 cs.length cs
  if rest.isEmpty ∧ n < 65536 then some (UInt16.ofNat n) else none

/-- The socket address of a text, in no flow. -/
def ofText? (s : String) : Option SocketAddress :=
  match s.toList with
  | '[' :: cs => do
      let (bits, rest) ← IpAddress.v6? cs
      let (scope, rest) ← scope? rest
      let rest ← IpAddress.char? ':' (← IpAddress.char? ']' rest)
      return ⟨.v6 bits 0 scope, ← port? rest⟩
  | cs => do
      let (bits, rest) ← IpAddress.v4? cs
      return ⟨.v4 bits, ← port? (← IpAddress.char? ':' rest)⟩

/-! ## Order -/

/-- The numbers by which socket addresses are ordered. -/
def sortKey (a : SocketAddress) : List Int :=
  match a.host with
  | .v4 bits => [4, bits.toNat, a.port.toNat]
  | .v6 bits flow scope => [6, bits.toNat, a.port.toNat, flow.toNat, scope.toNat]

theorem sortKey_ne_nil (a : SocketAddress) : a.sortKey ≠ [] := by
  unfold sortKey
  split <;> exact List.cons_ne_nil _ _

theorem sortKey_inj {a b : SocketAddress} (h : a.sortKey = b.sortKey) : a = b := by
  obtain ⟨host, p⟩ := a
  obtain ⟨other, q⟩ := b
  cases host with
  | v4 bits =>
    cases other with
    | v4 bits' =>
      simp only [sortKey, List.cons.injEq, Int.natCast_inj, true_and, and_true] at h
      obtain ⟨hbits, hport⟩ := h
      rw [BitVec.eq_of_toNat_eq hbits, UInt16.toNat_inj.mp hport]
    | v6 => simp [sortKey] at h
  | v6 bits flow scope =>
    cases other with
    | v4 => simp [sortKey] at h
    | v6 bits' flow' scope' =>
      simp only [sortKey, List.cons.injEq, Int.natCast_inj, true_and, and_true] at h
      obtain ⟨hbits, hport, hflow, hscope⟩ := h
      rw [BitVec.eq_of_toNat_eq hbits, UInt16.toNat_inj.mp hport, UInt32.toNat_inj.mp hflow,
        UInt32.toNat_inj.mp hscope]

end SocketAddress

end TernaryGossip
