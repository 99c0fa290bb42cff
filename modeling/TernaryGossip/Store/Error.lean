import TernaryGossip.Text.Utf8
import TernaryGossip.Transaction.Basic

/-!
# What can go wrong in a store

    Reading a stored record fails when its bytes are not the form that was
    expected; any other operation fails because a provider refuses it or a
    file cannot be used.
-/

namespace TernaryGossip

/-- Why bytes are not a stored record. -/
inductive DecodeError
  /-- The bytes end inside of a number or a byte string. -/
  | endOfInput
  /-- The bytes end inside of a text. -/
  | endOfText
  /-- A truth value is neither zero nor one. -/
  | notTruth (found : Nat)
  /-- No partition has this number. -/
  | notPartition (found : Nat)
  /-- A text is not UTF-8. -/
  | text (fault : Utf8.Fault)
  /-- A text is not a hash. -/
  | hash (cause : TritError)
  /-- A payload is not a transaction. -/
  | payload (cause : FormatError)
  deriving DecidableEq, Repr

/-- The text shown for an error. -/
def DecodeError.message : DecodeError → String
  | .endOfInput => "io error: unexpected end of file"
  | .endOfText => "io error: "
  | .notTruth found => s!"invalid u8 while decoding bool, expected 0 or 1, found {found}"
  | .notPartition found =>
      "invalid value: integer \x60" ++ toString found ++ "\x60, expected variant index 0 <= i < 8"
  | .text fault => "string is not valid utf8: " ++ fault.message
  | .hash cause => cause.message
  | .payload cause => cause.message

/-- Why an operation of a store fails. -/
inductive StorageError
  /-- A file cannot be read or written. -/
  | file
  /-- A stored record cannot be read. -/
  | record (cause : DecodeError)
  /-- A provider refuses to work. -/
  | unavailable (provider : String)
  /-- There is nothing to store records in. -/
  | noProviders
  deriving DecidableEq, Repr

/-- The text shown for an error. -/
def StorageError.message : StorageError → String
  | .file => "i/o error: the backup cannot be used"
  | .record cause => "serialization error: " ++ cause.message
  | .unavailable provider => "provider " ++ provider ++ " is not available"
  | .noProviders => "no persistence provider configured"

end TernaryGossip
