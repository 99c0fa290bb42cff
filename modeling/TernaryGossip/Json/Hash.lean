import TernaryGossip.Hash
import TernaryGossip.Json.Parser

/-!
# Hashes in JSON

    A hash is written as a string of its trytes.
-/

namespace TernaryGossip.Hash

/-- A hash as a JSON value. -/
def toJson (h : Hash) : Json := .text h.toTrytes

/-- The hash of a JSON value; `none` if the value is no string. -/
def ofJson? : Json → Option (Except TritError Hash)
  | .string (some s) => some (ofTrytes s)
  | _ => none

/-- The hash of a JSON text; `none` if the text is no string. -/
def ofJsonText? (s : String) : Option (Except TritError Hash) := Json.parse? s >>= ofJson?

end TernaryGossip.Hash
