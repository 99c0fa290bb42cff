import TernaryGossip.Bytes

/-!
# Percent-encoding

    A character that may not stand in a part of a URL is written as the
    bytes of its UTF-8 form, each as `%` and two upper-case hexadecimal
    digits.  Every part has its own set of such characters; all of them
    contain the controls and what is not ASCII.
-/

namespace TernaryGossip.Url.Percent

/-! ## Sets -/

/-- Controls and characters outside of ASCII. -/
def control (c : Char) : Bool := c.toNat < 0x20 || 0x7f ≤ c.toNat

/-- What is encoded in a fragment. -/
def fragment (c : Char) : Bool := control c || [' ', '"', '<', '>', '\x60'].contains c

/-- What is encoded in a path. -/
def path (c : Char) : Bool := fragment c || ['#', '?', '\x7b', '\x7d'].contains c

/-- What is encoded in a user name or password. -/
def userinfo (c : Char) : Bool :=
  path c || ['/', ':', ';', '=', '@', '[', '\\', ']', '^', '|'].contains c

/-- What is encoded in a query. -/
def query (c : Char) : Bool := control c || [' ', '"', '#', '<', '>'].contains c

/-- What is encoded in a query of a special scheme. -/
def specialQuery (c : Char) : Bool := query c || c == '\''

/-! ## Encoding -/

/-- The upper-case hexadecimal digit of a number below 16. -/
def hexDigit (n : Nat) : Char :=
  if n < 10 then Char.ofNat (48 + n) else Char.ofNat (55 + n)

/-- The three characters of a byte. -/
def encodeByte (b : UInt8) : List Char := ['%', hexDigit (b.toNat / 16), hexDigit (b.toNat % 16)]

/-- One character, encoded if it is in the set. -/
def encodeChar (set : Char → Bool) (c : Char) : List Char :=
  if set c then (String.utf8EncodeChar c).flatMap encodeByte else [c]

/-- Encodes the characters that are in the set. -/
def encode (set : Char → Bool) (cs : List Char) : List Char := cs.flatMap (encodeChar set)

/-! ## Decoding -/

/-- The byte that two hexadecimal digits stand for. -/
def decodePair? (x y : UInt8) : Option UInt8 := do
  let hi ← Bytes.hexValue? (Char.ofNat x.toNat)
  let lo ← Bytes.hexValue? (Char.ofNat y.toNat)
  return UInt8.ofNat (16 * hi + lo)

/-- Replaces every `%` and two hexadecimal digits by the byte they stand for. -/
def decode : Bytes → Bytes
  | b :: x :: y :: rest =>
      match (if b.toNat = 37 then decodePair? x y else none) with
      | some v => v :: decode rest
      | none => b :: decode (x :: y :: rest)
  | short => short

end TernaryGossip.Url.Percent
