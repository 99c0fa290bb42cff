import TernaryGossip.Domain.Joiner
import TernaryGossip.Domain.Mapping
import TernaryGossip.Domain.Punycode
import TernaryGossip.Text.Mark

/-!
# Labels

    A label is what stands between two dots of a domain name.  It has a
    written form, which is ASCII, and a form in which it is read.  The two
    differ when the label holds characters outside of ASCII: then the
    written form begins with a mark and is coded.

    A label may be given in either form, and both are checked alike.
-/

namespace TernaryGossip.Domain

/-- A character of ASCII. -/
def isAscii (c : Char) : Bool := c.toNat < 0x80

/-- ASCII characters that no domain name may hold. -/
def isForbidden (c : Char) : Bool :=
  c.toNat ≤ 0x20 || c.toNat == 0x7f ||
    ['%', '#', '/', ':', '<', '>', '?', '@', '[', '\\', ']', '^', '\x60', '\x7b', '|',
      '\x7d'].contains c

/-- A label of a domain name. -/
structure Label where
  /-- How it is written. -/
  written : List Char
  /-- How it is read. -/
  read : List Char
  deriving DecidableEq, Repr

namespace Label

/-- The beginning of coded labels. -/
def codeMark : List Char := "xn--".toList

/-- The most characters of a code. -/
def maxCode : Nat := 2000

/-- The most characters of a label that is coded. -/
def maxCoded : Nat := 1000

/-- A label as it is read may be one. -/
def isSound (cs : List Char) : Bool :=
  !cs.head?.any Text.isMark && joinersFit [] cs && (cs.all isAscii || cs.length ≤ maxCoded)

/-- Decodes a label without its mark.  What it yields was never to be mapped
and has no dot. -/
def decode? (code : List Char) : Option (List Char) := do
  let cs ← Punycode.decode? code
  if code.all isAscii ∧ code.length ≤ maxCode ∧ !cs.all isAscii ∧ isMapped cs ∧
      !cs.any (fun c => isForbidden c || c == '.') then
    some cs
  else none

/-- A label in either form, after it was mapped. -/
def ofMapped? (cs : List Char) : Option Label := do
  let label ←
    if codeMark.isPrefixOf cs then
      (decode? (cs.drop codeMark.length)).map fun read => ⟨cs, read⟩
    else if cs.all isAscii then some ⟨cs, cs⟩
    else some ⟨codeMark ++ Punycode.encode cs, cs⟩
  if isSound label.read then some label else none

end Label

end TernaryGossip.Domain
