import TernaryGossip.Json.Basic

/-!
# Reading JSON

    The whole text has to be one value, with blanks around it.  Reading is
    strict about the form of numbers, texts and separators, and says nothing
    about where a text breaks a rule.

    Every reader takes the characters that it needs from the front and
    leaves the rest.  Values nest, so their readers count down from twice the
    length of the text, which is more than they can need: each level takes a
    bracket, and each item at least one character.
-/

namespace TernaryGossip.Json

/-! ## Blanks and words -/

/-- A blank between the parts of a value. -/
def isSpace (c : Char) : Bool := c = ' ' || c = '\n' || c = '\t' || c = '\r'

/-- The characters after the blanks. -/
def skipSpaces (cs : List Char) : List Char := cs.dropWhile isSpace

/-- The characters after a word that has to stand there. -/
def word? : List Char → List Char → Option (List Char)
  | [], cs => some cs
  | _ :: _, [] => none
  | w :: ws, c :: cs => if w = c then word? ws cs else none

/-! ## Numbers -/

/-- A decimal digit. -/
def isDigit (c : Char) : Bool := '0' ≤ c && c ≤ '9'

/-- The digits in front, at least one. -/
def digits? (cs : List Char) : Option (List Char × List Char) :=
  let ds := cs.takeWhile isDigit
  if ds.isEmpty then none else some (ds, cs.drop ds.length)

/-- A number, part by part. -/
structure Numeral where
  /-- A minus sign stands in front. -/
  negative : Bool
  /-- The digits before the point. -/
  whole : List Char
  /-- The digits after the point, if there is one. -/
  fraction : Option (List Char)
  /-- The sign and digits of the exponent, if there is one. -/
  exponent : Option (Bool × List Char)
  deriving DecidableEq, Repr

/-- Reads what may follow the digits before the point. -/
def fraction? : List Char → Option (Option (List Char) × List Char)
  | '.' :: cs => (digits? cs).map fun r => (some r.1, r.2)
  | cs => some (none, cs)

/-- Reads the sign and the digits of an exponent. -/
def exponentDigits? : List Char → Option ((Bool × List Char) × List Char)
  | '+' :: cs => (digits? cs).map fun r => ((false, r.1), r.2)
  | '-' :: cs => (digits? cs).map fun r => ((true, r.1), r.2)
  | cs => (digits? cs).map fun r => ((false, r.1), r.2)

/-- Reads an exponent, if there is one. -/
def exponent? : List Char → Option (Option (Bool × List Char) × List Char)
  | 'e' :: cs => (exponentDigits? cs).map fun r => (some r.1, r.2)
  | 'E' :: cs => (exponentDigits? cs).map fun r => (some r.1, r.2)
  | cs => some (none, cs)

/-- Reads a number without its sign; several digits do not start with zero. -/
def magnitude? (negative : Bool) (cs : List Char) : Option (Numeral × List Char) := do
  let (whole, cs) ← digits? cs
  if whole.head? = some '0' ∧ whole.length > 1 then none
  else
    let (fraction, cs) ← fraction? cs
    let (exponent, cs) ← exponent? cs
    return (⟨negative, whole, fraction, exponent⟩, cs)

/-- Reads a number. -/
def numeral? : List Char → Option (Numeral × List Char)
  | '-' :: cs => magnitude? true cs
  | cs => magnitude? false cs

/-- The parts of a literal. -/
def Numeral.ofLiteral? (literal : String) : Option Numeral :=
  match numeral? literal.toList with
  | some (n, []) => some n
  | _ => none

/-! ## Texts -/

/-- A part of a text between quotes. -/
inductive StringPart
  /-- A character that stands for itself or is escaped by a letter. -/
  | char (c : Char)
  /-- A number of 16 bits, escaped. -/
  | code (n : Nat)

/-- The number of four hexadecimal digits. -/
def hex4? (cs : List Char) : Option Nat :=
  cs.foldlM (fun acc c =>
    if '0' ≤ c ∧ c ≤ '9' then some (16 * acc + (c.toNat - 48))
    else if 'a' ≤ c ∧ c ≤ 'f' then some (16 * acc + (c.toNat - 87))
    else if 'A' ≤ c ∧ c ≤ 'F' then some (16 * acc + (c.toNat - 55))
    else none) 0

/-- The character that a letter after a backslash stands for. -/
def escaped? (c : Char) : Option Char :=
  if c = '"' ∨ c = '\\' ∨ c = '/' then some c
  else if c = 'b' then some '\x08'
  else if c = 'f' then some '\x0c'
  else if c = 'n' then some '\n'
  else if c = 'r' then some '\r'
  else if c = 't' then some '\t'
  else none

/-- Reads the parts of a text up to the closing quote. -/
def units? : List Char → Option (List StringPart × List Char)
  | [] => none
  | '"' :: cs => some ([], cs)
  | '\\' :: 'u' :: a :: b :: c :: d :: cs => do
      let n ← hex4? [a, b, c, d]
      let (us, rest) ← units? cs
      return (.code n :: us, rest)
  | '\\' :: c :: cs => do
      let c ← escaped? c
      let (us, rest) ← units? cs
      return (.char c :: us, rest)
  | c :: cs =>
      if c.toNat < 0x20 ∨ c = '\\' then none
      else do
        let (us, rest) ← units? cs
        return (.char c :: us, rest)

/-- The characters of the parts of a text; `none` if half of a surrogate
pair stands alone. -/
def chars? : List StringPart → Option (List Char)
  | [] => some []
  | .char c :: us => do
      let cs ← chars? us
      return c :: cs
  | .code n :: us =>
      if 0xd800 ≤ n ∧ n ≤ 0xdbff then
        match us with
        | .code m :: us =>
            if 0xdc00 ≤ m ∧ m ≤ 0xdfff then do
              let cs ← chars? us
              return Char.ofNat (0x10000 + 0x400 * (n - 0xd800) + (m - 0xdc00)) :: cs
            else none
        | _ => none
      else if 0xdc00 ≤ n ∧ n ≤ 0xdfff then none
      else do
        let cs ← chars? us
        return Char.ofNat n :: cs

/-- Reads a text after its opening quote. -/
def string? (cs : List Char) : Option (Option String × List Char) := do
  let (us, rest) ← units? cs
  return ((chars? us).map String.ofList, rest)

/-! ## Values -/

mutual

/-- Reads a value. -/
def value? : Nat → List Char → Option (Json × List Char)
  | 0, _ => none
  | fuel + 1, cs =>
      match skipSpaces cs with
      | '[' :: cs =>
          match skipSpaces cs with
          | ']' :: cs => some (.array [], cs)
          | cs => (items? fuel cs).map fun r => (.array r.1, r.2)
      | '\x7b' :: cs =>
          match skipSpaces cs with
          | '\x7d' :: cs => some (.object [], cs)
          | cs => (members? fuel cs).map fun r => (.object r.1, r.2)
      | '"' :: cs => (string? cs).map fun r => (.string r.1, r.2)
      | 'n' :: cs => (word? "ull".toList cs).map fun cs => (.null, cs)
      | 't' :: cs => (word? "rue".toList cs).map fun cs => (.bool true, cs)
      | 'f' :: cs => (word? "alse".toList cs).map fun cs => (.bool false, cs)
      | cs =>
          (numeral? cs).map fun r =>
            (.number (String.ofList (cs.take (cs.length - r.2.length))), r.2)

/-- Reads the items of a list up to its closing bracket. -/
def items? : Nat → List Char → Option (List Json × List Char)
  | 0, _ => none
  | fuel + 1, cs => do
      let (x, cs) ← value? fuel cs
      match skipSpaces cs with
      | ',' :: cs => do
          let (xs, cs) ← items? fuel cs
          return (x :: xs, cs)
      | ']' :: cs => return ([x], cs)
      | _ => none

/-- Reads the members of an object up to its closing brace. -/
def members? : Nat → List Char → Option (List (Option String × Json) × List Char)
  | 0, _ => none
  | fuel + 1, cs =>
      match skipSpaces cs with
      | '"' :: cs => do
          let (k, cs) ← string? cs
          let cs ← word? [':'] (skipSpaces cs)
          let (x, cs) ← value? fuel cs
          match skipSpaces cs with
          | ',' :: cs => do
              let (ms, cs) ← members? fuel cs
              return ((k, x) :: ms, cs)
          | '\x7d' :: cs => return ([(k, x)], cs)
          | _ => none
      | _ => none

end

/-- The value of a text. -/
def parse? (s : String) : Option Json :=
  let cs := s.toList
  match value? (2 * cs.length + 2) cs with
  | some (j, rest) => if (skipSpaces rest).isEmpty then some j else none
  | none => none

end TernaryGossip.Json
