import TernaryGossip.Text.Unmarked

/-!
# Quoted text

    Messages show a piece of foreign text between quotes, so that its ends
    and its invisible characters can be seen.  A text stands between `"` and
    a character between `'`.  NUL, tab, line feed, carriage return and the
    backslash have short forms, the enclosing quote is escaped, and a
    character that leaves no mark of its own is written by number as
    `\u{…}` in lower-case hexadecimal.
-/

namespace TernaryGossip.Text

/-- The hexadecimal digits of a number, most significant first. -/
def hexNumber (n : Nat) : String := String.ofList (Nat.toDigits 16 n)

/-- One character inside quotes of the kind `quote`. -/
def escape (quote c : Char) : String :=
  if c = '\x00' then "\\0"
  else if c = '\t' then "\\t"
  else if c = '\n' then "\\n"
  else if c = '\r' then "\\r"
  else if c = '\\' then "\\\\"
  else if c = quote then String.ofList ['\\', c]
  else if isUnmarked c then "\\u\x7b" ++ hexNumber c.toNat ++ "\x7d"
  else c.toString

/-- A character between single quotes. -/
def quotedChar (c : Char) : String := "'" ++ escape '\'' c ++ "'"

/-- A text between double quotes. -/
def quoted (s : String) : String :=
  "\"" ++ String.join (s.toList.map (escape '"')) ++ "\""

end TernaryGossip.Text
