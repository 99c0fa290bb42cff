/-!
# JSON values

    Values as they are written: a number is its literal, an object is the
    list of its members in order, and two members may have the same name.

    A text that holds half of a surrogate pair stands for no string of
    characters.  It may stand in a value that nobody looks at, so it is kept
    as the absence of a string.

    Values are printed without blanks, or with one item per line and two
    blanks of indentation per level.
-/

namespace TernaryGossip

/-- A JSON value. -/
inductive Json
  /-- Nothing. -/
  | null
  /-- A truth value. -/
  | bool (value : Bool)
  /-- A number, as it is written. -/
  | number (literal : String)
  /-- A text, if it is a string of characters. -/
  | string (value : Option String)
  /-- A list. -/
  | array (items : List Json)
  /-- Named members. -/
  | object (members : List (Option String × Json))

namespace Json

instance : Inhabited Json := ⟨null⟩

/-! ## Making values -/

/-- A text. -/
def text (s : String) : Json := string (some s)

/-- A natural number. -/
def natural (n : Nat) : Json := number (toString n)

/-- A whole number. -/
def integer (n : Int) : Json := number (toString n)

/-- An object with the given members. -/
def record (members : List (String × Json)) : Json := object (members.map fun m => (some m.1, m.2))

/-! ## Printing -/

/-- Four hexadecimal digits. -/
def hex4 (n : Nat) : List Char :=
  let ds := Nat.toDigits 16 n
  List.replicate (4 - ds.length) '0' ++ ds

/-- A character inside of a text: quotes, backslashes and controls are escaped. -/
def escape (c : Char) : List Char :=
  if c = '"' then ['\\', '"']
  else if c = '\\' then ['\\', '\\']
  else if c = '\x08' then ['\\', 'b']
  else if c = '\x0c' then ['\\', 'f']
  else if c = '\n' then ['\\', 'n']
  else if c = '\r' then ['\\', 'r']
  else if c = '\t' then ['\\', 't']
  else if c.toNat < 0x20 then '\\' :: 'u' :: hex4 c.toNat
  else [c]

/-- A text between quotes. -/
def quote (s : String) : String := "\"" ++ String.ofList (s.toList.flatMap escape) ++ "\""

/-- A text between quotes; the empty one in place of one that is no string. -/
def quoteOption (s : Option String) : String := quote (s.getD "")

mutual

/-- A value without blanks. -/
def compact : Json → String
  | .null => "null"
  | .bool b => if b then "true" else "false"
  | .number literal => literal
  | .string s => quoteOption s
  | .array items => "[" ++ compactItems items ++ "]"
  | .object members => "\x7b" ++ compactMembers members ++ "\x7d"

/-- The items of a list without blanks. -/
def compactItems : List Json → String
  | [] => ""
  | [x] => compact x
  | x :: y :: rest => compact x ++ "," ++ compactItems (y :: rest)

/-- The members of an object without blanks. -/
def compactMembers : List (Option String × Json) → String
  | [] => ""
  | [(k, x)] => quoteOption k ++ ":" ++ compact x
  | (k, x) :: y :: rest => quoteOption k ++ ":" ++ compact x ++ "," ++ compactMembers (y :: rest)

end

/-- A line break and the indentation of a level. -/
def indent (level : Nat) : String := "\n" ++ String.ofList (List.replicate (2 * level) ' ')

mutual

/-- A value with one item per line, at a level of indentation. -/
def prettyAt (level : Nat) : Json → String
  | .null => "null"
  | .bool b => if b then "true" else "false"
  | .number literal => literal
  | .string s => quoteOption s
  | .array [] => "[]"
  | .array (x :: rest) => "[" ++ prettyItems (level + 1) (x :: rest) ++ indent level ++ "]"
  | .object [] => "\x7b\x7d"
  | .object (m :: rest) => "\x7b" ++ prettyMembers (level + 1) (m :: rest) ++ indent level ++ "\x7d"

/-- The items of a list, one per line. -/
def prettyItems (level : Nat) : List Json → String
  | [] => ""
  | [x] => indent level ++ prettyAt level x
  | x :: y :: rest => indent level ++ prettyAt level x ++ "," ++ prettyItems level (y :: rest)

/-- The members of an object, one per line. -/
def prettyMembers (level : Nat) : List (Option String × Json) → String
  | [] => ""
  | [(k, x)] => indent level ++ quoteOption k ++ ": " ++ prettyAt level x
  | (k, x) :: y :: rest =>
      indent level ++ quoteOption k ++ ": " ++ prettyAt level x ++ "," ++
        prettyMembers level (y :: rest)

end

/-- A value with one item per line. -/
def pretty (j : Json) : String := prettyAt 0 j

end Json

end TernaryGossip
