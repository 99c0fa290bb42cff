import TernaryGossip.Transaction.Layout

/-!
# Versions

    The program and the form of the packets have a version each.
-/

namespace TernaryGossip.Version

/-- The version of the program. -/
def program : String := "0.1.0"

/-- What the version command prints.  `compiler` is the compiler that the
program was built with, if it is known. -/
def text (compiler : Option String) : String :=
  "tangle-node " ++ program ++ "\nprotocol    " ++ Layout.version ++ "\nrustc       " ++
    compiler.getD "unknown" ++ "\n"

/-- The version that a node reports. -/
def reported : String := program ++ " (protocol " ++ Layout.version ++ ")"

end TernaryGossip.Version
