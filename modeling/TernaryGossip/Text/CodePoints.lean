import TernaryGossip.Bytes

/-!
# Tables of code points

    What is known of characters is written down as a table.  A table is a
    text of words.  A word names code points by number, in hexadecimal: one
    of them (`ad`), all of a range (`300-36f`), or those of a range that are
    equal steps apart (`100-12e/2`).  What the table says of them may follow
    behind a colon.
-/

namespace TernaryGossip.Text

/-- Splits a text at the characters that satisfy a condition. -/
def pieces (isCut : Char → Bool) (cs : List Char) : List (List Char) :=
  cs.foldr (fun c acc =>
    if isCut c then [] :: acc
    else match acc with
      | [] => [[c]]
      | piece :: rest => (c :: piece) :: rest) [[]]

/-- Code points that are equal steps apart. -/
structure CodePoints where
  /-- The first one. -/
  first : Nat
  /-- The last one, or a bound for it. -/
  last : Nat
  /-- How far apart they are. -/
  step : Nat
  deriving DecidableEq, Repr

namespace CodePoints

/-- A code point is one of them. -/
def contains (r : CodePoints) (n : Nat) : Bool :=
  r.first ≤ n && n ≤ r.last && (n - r.first) % r.step == 0

/-- The number that hexadecimal digits spell. -/
def number (digits : List Char) : Nat :=
  digits.foldl (fun n d => 16 * n + (Bytes.hexValue? d).getD 0) 0

/-- Reads code points; `read? "100-12e/2"`. -/
def read? (word : List Char) : Option CodePoints :=
  let single := fun r : List Char => ⟨number r, number r, 1⟩
  match pieces (· == '/') word with
  | [range, step] =>
      match pieces (· == '-') range with
      | [first, last] => some ⟨number first, number last, number step⟩
      | _ => none
  | [range] =>
      match pieces (· == '-') range with
      | [first, last] => some ⟨number first, number last, 1⟩
      | [n] => if n.isEmpty then none else some (single n)
      | _ => none
  | _ => none

end CodePoints

/-- What a table says of code points. -/
abbrev CodeTable (α : Type) := List (CodePoints × α)

namespace CodeTable

/-- Reads a table; `value` reads what stands behind the colon of a word. -/
def ofText {α : Type} (value : List Char → α) (text : String) : CodeTable α :=
  (pieces Char.isWhitespace text.toList).filterMap fun word =>
    (CodePoints.read? (word.takeWhile (· ≠ ':'))).map fun r =>
      (r, value ((word.dropWhile (· ≠ ':')).drop 1))

/-- The entry of a code point. -/
def find? {α : Type} (t : CodeTable α) (n : Nat) : Option (CodePoints × α) :=
  List.find? (fun e => e.1.contains n) t

/-- What the table says of a code point. -/
def get? {α : Type} (t : CodeTable α) (n : Nat) : Option α := (t.find? n).map Prod.snd

/-- The table names a code point. -/
def contains {α : Type} (t : CodeTable α) (n : Nat) : Bool := t.any fun e => e.1.contains n

/-- Reads numbers between commas. -/
def numbers (cs : List Char) : List Nat :=
  if cs.isEmpty then [] else (pieces (· == ',') cs).map CodePoints.number

end CodeTable

end TernaryGossip.Text
