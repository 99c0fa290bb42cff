import TernaryGossip.Trit.Error
import TernaryGossip.Trit.Balanced

/-!
# Tryte text

    Three trits are written as one character of the alphabet `9A … Z`.  The
    27 characters stand for the residues modulo 27 in order: `9` for 0, `A`
    to `M` for 1 to 13, `N` to `Z` for -13 to -1.
-/

namespace TernaryGossip.Tryte

/-- The characters of tryte text, by residue modulo 27. -/
def alphabet : List Char := "9ABCDEFGHIJKLMNOPQRSTUVWXYZ".toList

/-- The character of a number between -13 and 13. -/
def ofValue (v : Int) : Char := alphabet.getD (v % 27).toNat '9'

/-- The number of a character, if it is in the alphabet. -/
def value? (c : Char) : Option Int :=
  (alphabet.idxOf? c).map fun i => if i > 13 then (i : Int) - 27 else i

/-- The characters of a sequence of trits, three to a character; a last
group of fewer than three is left out. -/
def chars : Trits → List Char
  | a :: b :: c :: rest => ofValue (Balanced.value [a, b, c]) :: chars rest
  | _ => []

/-- Tryte text of a sequence of trits whose number is a multiple of three. -/
def write (ts : Trits) : Except TritError String :=
  if ts.length % 3 = 0 then .ok (String.ofList (chars ts))
  else .error (.unalignedTrits ts.length)

/-- The trits of a list of tryte characters. -/
def readChars : List Char → Except TritError Trits
  | [] => .ok []
  | c :: cs =>
      match value? c with
      | none => .error (.invalidTryte c)
      | some v => do
          let rest ← readChars cs
          return Balanced.digits 3 v ++ rest

/-- The trits of a tryte text. -/
def read (s : String) : Except TritError Trits := readChars s.toList

theorem length_chars (ts : Trits) : (chars ts).length = ts.length / 3 := by
  fun_induction chars ts with
  | case1 a b c rest ih => simp [ih]; omega
  | case2 ts h =>
    match ts, h with
    | [], _ => rfl
    | [_], _ => simp
    | [_, _], _ => simp
    | a :: b :: c :: rest, h => exact absurd rfl (h a b c rest)

end TernaryGossip.Tryte
