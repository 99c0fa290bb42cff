/-!
# Targets of requests

    The first line of a request names what it is about: a path, a whole
    address whose path counts, an authority without a path, or an asterisk.
    Only the path is kept.  A query and a fragment may follow it; a query
    has to be well-formed, and what stands in a fragment does not matter.

    An authority is a host, perhaps with a user in front and a port behind.
    At most one colon stands outside of the user and the brackets of an
    address, and a percent sign stands in the user only.
-/

namespace TernaryGossip.Api

/-- Why a target names nothing. -/
inductive TargetFault
  /-- It has another form than those above. -/
  | malformed
  /-- It is too long. -/
  | tooLong
  deriving DecidableEq, Repr

namespace Target

/-- The most bytes of a target. -/
def maxLength : Nat := 65534

/-! ## Characters -/

/-- A character that a path may hold. -/
def inPath (c : Char) : Bool := 0x20 < c.toNat && ['<', '>', '\x60'].all (· ≠ c)

/-- A character that a query may hold. -/
def inQuery (c : Char) : Bool := 0x20 < c.toNat && ['"', '<', '>'].all (· ≠ c)

/-- A character that a scheme may hold. -/
def inScheme (c : Char) : Bool := c.isAlphanum || ['+', '-', '.', '~'].contains c

/-- A character without a meaning of its own in an authority. -/
def inAuthority (c : Char) : Bool :=
  c.isAlphanum ||
    ['!', '$', '&', '\'', '(', ')', '*', '+', ',', '-', '.', ';', '=', '_', '~'].contains c

/-- A character behind an authority. -/
def endsAuthority (c : Char) : Bool := c == '/' || c == '?' || c == '#'

/-! ## Authority -/

/-- What was seen of an authority. -/
structure Seen where
  /-- Colons since the user or the brackets. -/
  colons : Nat
  /-- An opening bracket. -/
  opened : Bool
  /-- A closing bracket. -/
  closed : Bool
  /-- A percent sign since the user or the brackets. -/
  percent : Bool

/-- Nothing was seen yet. -/
def Seen.nothing : Seen := ⟨0, false, false, false⟩

/-- One more character. -/
def Seen.next? (s : Seen) (c : Char) : Option Seen :=
  if c = ':' then if s.colons < 8 then some { s with colons := s.colons + 1 } else none
  else if c = '[' then if s.percent ∨ s.opened then none else some { s with opened := true }
  else if c = ']' then
    if s.opened ∧ !s.closed then some { s with closed := true, colons := 0, percent := false }
    else none
  else if c = '@' then some { s with colons := 0, percent := false }
  else if c = '%' then some { s with percent := true }
  else if inAuthority c then some s
  else none

/-- The authority may end here. -/
def Seen.isWhole (s : Seen) : Bool := s.opened == s.closed && s.colons ≤ 1 && !s.percent

/-- An authority, perhaps an empty one, is well-formed. -/
def isAuthority (cs : List Char) : Bool :=
  cs.getLast? ≠ some '@' && (cs.foldlM Seen.next? Seen.nothing).any Seen.isWhole

/-! ## Path -/

/-- The scheme of a whole address, and what follows its slashes. -/
def scheme? (cs : List Char) : Option (List Char × List Char) :=
  match cs.dropWhile inScheme with
  | ':' :: '/' :: '/' :: rest => some (cs.takeWhile inScheme, rest)
  | _ => none

/-- The path in front of a query and a fragment. -/
def pathPart? (cs : List Char) : Option (List Char) :=
  let path := cs.takeWhile fun c => c ≠ '?' ∧ c ≠ '#'
  let query := match cs.drop path.length with
    | '?' :: rest => rest.takeWhile (· ≠ '#')
    | _ => []
  if path.all inPath ∧ query.all inQuery then some path else none

/-- The path of a whole address; an empty one is that of the root. -/
def addressPath? (scheme rest : List Char) : Option (List Char) :=
  let authority := rest.takeWhile fun c => !endsAuthority c
  if scheme.length ≤ 64 ∧ authority ≠ [] ∧ isAuthority authority then
    (pathPart? (rest.drop authority.length)).map fun path => if path = [] then ['/'] else path
  else none

/-- The path that the characters of a target name.  An authority alone has
none. -/
def path? (cs : List Char) : Option (List Char) :=
  if cs = ['*'] then some cs
  else if cs.head? = some '/' then pathPart? cs
  else
    match scheme? cs with
    | some (scheme, rest) => addressPath? scheme rest
    | none => if cs ≠ [] ∧ !cs.any endsAuthority ∧ isAuthority cs then some [] else none

/-- The path of a target. -/
def path (target : String) : Except TargetFault (List Char) :=
  if maxLength < target.utf8ByteSize then .error .tooLong
  else
    match path? target.toList with
    | some path => .ok path
    | none => .error .malformed

end Target

end TernaryGossip.Api
