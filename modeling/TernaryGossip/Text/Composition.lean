import TernaryGossip.Text.CompositionTable

/-!
# Composed text

    One character can often be spelled in several ways: as it is, or as a
    letter and marks, and the marks in several orders.  The composed form of
    a text is the one spelling that stands for all of them.  To find it,
    every character is taken apart, marks are put into the order of their
    ranks, and then each mark is joined to the letter before it where the
    two have a common character and no mark of the same or a higher rank
    stands between them.

    Syllables of Hangul are not in the table: their numbers follow from the
    numbers of their two or three parts.
-/

namespace TernaryGossip.Text

/-! ## Parts of characters -/

/-- A number is that of a syllable of Hangul. -/
def isSyllable (n : Nat) : Bool := 0xac00 ≤ n && n ≤ 0xd7a3

/-- The two characters that a character consists of. -/
def parts? (n : Nat) : Option (Nat × Nat) :=
  if isSyllable n then
    let i := n - 0xac00
    if i % 28 = 0 then some (0x1100 + i / 588, 0x1161 + i % 588 / 28)
    else some (n - i % 28, 0x11a7 + i % 28)
  else
    match compositions.get? n with
    | some [a, b] => some (a, b)
    | _ => none

/-- The character that consists of two characters. -/
def whole? (a b : Nat) : Option Nat :=
  if 0x1100 ≤ a ∧ a ≤ 0x1112 ∧ 0x1161 ≤ b ∧ b ≤ 0x1175 then
    some (0xac00 + ((a - 0x1100) * 21 + (b - 0x1161)) * 28)
  else if isSyllable a ∧ (a - 0xac00) % 28 = 0 ∧ 0x11a8 ≤ b ∧ b ≤ 0x11c2 then
    some (a + (b - 0x11a7))
  else (List.find? (fun e => e.2 == [a, b]) compositions).map fun e => e.1.first

/-- How often a character can be taken apart at most. -/
def maxDepth : Nat := 3

/-- Takes a character apart, at most `depth` times. -/
def takeApart : Nat → Nat → List Nat
  | 0, n => [n]
  | depth + 1, n =>
      match parts? n with
      | some (a, b) => takeApart depth a ++ [b]
      | none => [n]

/-! ## Order of marks -/

/-- The rank of a mark; that of every other character is zero. -/
def rank (n : Nat) : Nat := (ranks.get? n).getD 0

/-- Puts a character behind a text in reverse; a mark goes in front of the
marks of higher ranks. -/
def place (n : Nat) : List Nat → List Nat
  | [] => [n]
  | m :: rest => if 0 < rank n ∧ rank n < rank m then m :: place n rest else n :: m :: rest

/-- Puts the marks of a text into their order. -/
def arrange (ns : List Nat) : List Nat := (ns.foldl (fun acc n => place n acc) []).reverse

/-! ## Composing -/

/-- A text that is being composed. -/
structure Composer where
  /-- What is done, in reverse. -/
  done : List Nat
  /-- The last letter. -/
  letter : Option Nat
  /-- The marks behind it that could not be joined to it, in reverse. -/
  marks : List Nat

namespace Composer

/-- Nothing was composed yet. -/
def start : Composer := ⟨[], none, []⟩

/-- All characters, in reverse. -/
def all (s : Composer) : List Nat := s.marks ++ s.letter.toList ++ s.done

/-- The character that the last letter and the next character form. -/
def joined? (s : Composer) (n : Nat) : Option Nat := do
  let letter ← s.letter
  if s.marks.all fun m => rank m < rank n then whole? letter n else none

/-- Goes on by one character. -/
def next (s : Composer) (n : Nat) : Composer :=
  match s.joined? n with
  | some whole => { s with letter := some whole }
  | none =>
      if rank n = 0 then ⟨s.all, some n, []⟩
      else { s with marks := n :: s.marks }

end Composer

/-- The composed form of a text. -/
def compose (cs : List Char) : List Char :=
  let ns := arrange (cs.flatMap fun c => takeApart maxDepth c.toNat)
  (ns.foldl Composer.next .start).all.reverse.map Char.ofNat

end TernaryGossip.Text
