import TernaryGossip.Number.Binary64

/-!
# Reading numbers

    Numbers as an operator types them.  A whole number is a row of digits
    after an optional sign.  A binary number may have a point, which needs a
    digit on one of its sides, and an exponent; infinities and the absence of
    a number are written as words, in letters of any case.  It is the number
    nearest to the decimal one.
-/

namespace TernaryGossip.Number

/-- A decimal digit. -/
def isDigit (c : Char) : Bool := '0' ≤ c && c ≤ '9'

/-- The number of a row of digits. -/
def ofDigits (ds : List Char) : Nat := ds.foldl (fun acc c => 10 * acc + (c.toNat - 48)) 0

/-- The number of a row of at least one digit and nothing else. -/
def natural? (cs : List Char) : Option Nat :=
  if cs.isEmpty ∨ ¬cs.all isDigit then none else some (ofDigits cs)

/-- The sign in front, if any, and the rest. -/
def sign : List Char → Bool × List Char
  | '-' :: cs => (true, cs)
  | '+' :: cs => (false, cs)
  | cs => (false, cs)

/-- The whole number of a text. -/
def integer? (s : String) : Option Int :=
  let (negative, cs) := sign s.toList
  (natural? cs).map fun n => if negative then -(n : Int) else n

/-- The exponent at the end of a number; zero when there is none. -/
def exponent? : List Char → Option Int
  | [] => some 0
  | c :: cs =>
      if c = 'e' ∨ c = 'E' then
        let (negative, ds) := sign cs
        (natural? ds).map fun n => if negative then -(n : Int) else n
      else none

/-- The digits before the point, those after it, and the rest. -/
def mantissa (cs : List Char) : List Char × List Char × List Char :=
  let whole := cs.takeWhile isDigit
  match cs.drop whole.length with
  | '.' :: rest =>
      let fraction := rest.takeWhile isDigit
      (whole, fraction, rest.drop fraction.length)
  | rest => (whole, [], rest)

/-- The binary number of a text. -/
def binary64? (s : String) : Option Binary64 :=
  let (negative, cs) := sign s.toList
  let word := String.ofList (cs.map Char.toLower)
  if word = "inf" ∨ word = "infinity" then some (.infinite negative)
  else if word = "nan" then some .nan
  else
    let (whole, fraction, rest) := mantissa cs
    if whole.isEmpty ∧ fraction.isEmpty then none
    else (exponent? rest).map fun e =>
      .ofDecimal negative (ofDigits (whole ++ fraction)) (e - fraction.length)

end TernaryGossip.Number
