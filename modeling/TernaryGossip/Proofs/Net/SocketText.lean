import TernaryGossip.Proofs.Net.AddressText

/-! # Socket addresses are read back from their text

    A scope stands between an address and the bracket behind it, and neither
    the bracket nor the sign in front of a scope could belong to the address.
    So a socket address is read back from its text, all but its flow, which
    the text does not show. -/

namespace TernaryGossip

/-- The address in no flow. -/
def ScopedAddress.withoutFlow : ScopedAddress → ScopedAddress
  | v4 bits => .v4 bits
  | v6 bits _ scope => .v6 bits 0 scope

theorem ScopedAddress.withoutFlow_eq_self {a : ScopedAddress} :
    a.withoutFlow = a ↔ a.flow = 0 := by
  cases a with
  | v4 bits => exact ⟨fun _ => rfl, fun _ => rfl⟩
  | v6 bits f s => simp [withoutFlow, flow, eq_comm]

namespace SocketAddress

open IpAddress

/-- A number is read back, however long it is. -/
theorem number?_decimal (n : Nat) {rest : List Char}
    (hrest : Stops (fun c => (digit? c).isSome) rest) :
    number? digit? 10 (Nat.toDigits 10 n ++ rest).length (Nat.toDigits 10 n ++ rest) =
      some (n, rest) := by
  refine number?_toDigits (by decide) digit?_digitChar ?_ hrest
  rw [List.length_append]
  omega

theorem port?_toDigits (port : UInt16) : port? (Nat.toDigits 10 port.toNat) = some port := by
  have hread := number?_decimal port.toNat (stops_nil _)
  rw [List.append_nil] at hread
  have hlt : port.toNat < 65536 := port.toNat_lt
  rw [port?, hread]
  simp [hlt]

/-! ## Scopes -/

theorem scopeText_toList (scope : UInt32) :
    (scopeText scope).toList = if scope = 0 then [] else '%' :: Nat.toDigits 10 scope.toNat := by
  unfold scopeText
  split
  · rfl
  · rw [String.toList_append, Nat.toString_eq_repr, Nat.toList_repr]
    rfl

/-- What stands behind an address in brackets closes it. -/
theorem closes_scopeText (scope : UInt32) (rest : List Char) :
    Closes ((scopeText scope).toList ++ ']' :: rest) := by
  rw [scopeText_toList]
  split
  · exact closes_cons (by decide) (by decide) (by decide) _
  · exact closes_cons (by decide) (by decide) (by decide) _

/-- A scope is read back up to the bracket. -/
theorem scope?_scopeText (scope : UInt32) (rest : List Char) :
    scope? ((scopeText scope).toList ++ ']' :: rest) = some (scope, ']' :: rest) := by
  rw [scopeText_toList]
  split
  · next hzero =>
    rw [hzero]
    rfl
  · have hread := number?_decimal scope.toNat (stops_cons (by decide : _ = false) rest (c := ']'))
    have hlt : scope.toNat < 4294967296 := scope.toNat_lt
    rw [List.cons_append, scope?, hread]
    simp [hlt]

/-! ## Socket addresses -/

/-- A bracket does not begin a decimal address. -/
theorem v4?_bracket (cs : List Char) : v4? ('[' :: cs) = none := by
  refine v4?_eq_none ?_
  rw [List.dropWhile_cons_of_neg (by decide)]
  exact fun h => by cases h

/-- All but the flow of a socket address is read back from its text. -/
theorem ofText?_text (a : SocketAddress) : ofText? a.text = some ⟨a.host.withoutFlow, a.port⟩ := by
  obtain ⟨host, port⟩ := a
  cases host with
  | v4 bits =>
    have htext : (text ⟨.v4 bits, port⟩).toList =
        (octetText bits).toList ++ ':' :: Nat.toDigits 10 port.toNat := by
      simp [text, ip, ScopedAddress.ip, IpAddress.text]
    have hread := v4?_octetText bits (stops_cons (by decide) (Nat.toDigits 10 port.toNat) (c := ':'))
    rw [← htext] at hread
    unfold ofText?
    split
    · next cs hbracket =>
      -- the text would begin with a bracket
      rw [hbracket, v4?_bracket] at hread
      cases hread
    · rw [hread]
      simp [char?, port?_toDigits, ScopedAddress.withoutFlow]
  | v6 bits flow scope =>
    have htext : (text ⟨.v6 bits flow scope, port⟩).toList =
        '[' :: ((IpAddress.text (.v6 bits)).toList ++ ((scopeText scope).toList ++
          ']' :: ':' :: Nat.toDigits 10 port.toNat)) := by
      simp [text, ip, ScopedAddress.ip]
    rw [ofText?, htext]
    simp [v6?_text_append bits (closes_scopeText scope _), scope?_scopeText, char?, port?_toDigits,
      ScopedAddress.withoutFlow]

theorem ofText?_text_eq_self {a : SocketAddress} :
    ofText? a.text = some a ↔ a.host.flow = 0 := by
  obtain ⟨host, port⟩ := a
  rw [ofText?_text, Option.some.injEq, mk.injEq, ← ScopedAddress.withoutFlow_eq_self]
  exact and_iff_left rfl

/-- An address on the third of the links that share its number. -/
example : (ofText? "[fe80::1%3]:14600").map text = some "[fe80::1%3]:14600" := by decide +kernel

end SocketAddress

end TernaryGossip
