import TernaryGossip.Domain.MappingTable
import TernaryGossip.Text.Composition

/-!
# Mapped characters

    Two spellings of a domain name are the same name if they are equal when
    all characters are mapped: capital letters to small ones, other forms of
    a character to the ordinary one, and characters that are not seen to
    nothing.  Then the text is composed.
-/

namespace TernaryGossip.Domain

/-- What a character is mapped to; nothing for one that no domain name may
hold. -/
def mapChar? (c : Char) : Option (List Char) :=
  match replacements.find? c.toNat with
  | some (points, [target]) => some [Char.ofNat (target + (c.toNat - points.first))]
  | some (_, targets) => some (targets.map Char.ofNat)
  | none => if disallowed.contains c.toNat then none else some [c]

/-- The mapped form of a text. -/
def mapped? (cs : List Char) : Option (List Char) :=
  (cs.mapM mapChar?).map fun parts => Text.compose parts.flatten

/-- A text is its own mapped form, and so is every character of it. -/
def isMapped (cs : List Char) : Bool :=
  cs.all (fun c => mapChar? c == some [c]) && Text.compose cs == cs

end TernaryGossip.Domain
