import TernaryGossip.Tangle.Record

/-!
# Tips

    A tip is a transaction that nothing approves yet.  Tips are kept in two
    sets, those that are solid and those that are not known to be.  A new
    tip is not solid; marking it moves it over.

    A random tip is chosen by a number: the item at that position, counted
    around.
-/

namespace TernaryGossip

/-- The tips, each set in the order in which its members joined it. -/
structure Tips where
  /-- Tips not known to be solid. -/
  nonSolid : List Hash
  /-- Solid tips. -/
  solid : List Hash
  deriving DecidableEq

namespace Tips

/-- No tips. -/
def empty : Tips := ⟨[], []⟩

instance : Inhabited Tips := ⟨empty⟩

/-- A set with one more member. -/
def join (set : List Hash) (h : Hash) : List Hash := if h ∈ set then set else set ++ [h]

/-- A set without a member. -/
def leave (set : List Hash) (h : Hash) : List Hash := set.filter (· ≠ h)

/-- Adds a tip that is not solid; says whether it is new there. -/
def add (t : Tips) (h : Hash) : Bool × Tips :=
  (!t.nonSolid.contains h, { t with nonSolid := join t.nonSolid h })

/-- Removes a tip from the set that it is in, first from those not solid;
says whether there was one. -/
def remove (t : Tips) (h : Hash) : Bool × Tips :=
  if h ∈ t.nonSolid then (true, { t with nonSolid := leave t.nonSolid h })
  else (t.solid.contains h, { t with solid := leave t.solid h })

/-- Marks a tip as solid; says whether it was one that was not. -/
def markSolid (t : Tips) (h : Hash) : Bool × Tips :=
  if h ∈ t.nonSolid then (true, ⟨leave t.nonSolid h, join t.solid h⟩) else (false, t)

/-- The hash is a tip. -/
def contains (t : Tips) (h : Hash) : Bool := t.nonSolid.contains h || t.solid.contains h

/-- All tips; a hash in both sets stands there twice. -/
def toList (t : Tips) : List Hash := t.nonSolid ++ t.solid

/-- The number of tips. -/
def size (t : Tips) : Nat := t.nonSolid.length + t.solid.length

/-- The item at a position, counted around; `none` of nothing. -/
def pick {α : Type} (xs : List α) (n : Nat) : Option α := xs[n % xs.length]?

/-- A random tip. -/
def random (t : Tips) (n : Nat) : Option Hash := pick t.toList n

/-- A random solid tip, or if there is none, one that is not. -/
def randomSolid (t : Tips) (n : Nat) : Option Hash :=
  if t.solid.isEmpty then pick t.nonSolid n else pick t.solid n

/-- A random tip that is not solid. -/
def randomNonSolid (t : Tips) (n : Nat) : Option Hash := pick t.nonSolid n

/-- Adds every stored transaction that nothing approves; yields how many are
new. -/
def load (t : Tips) (s : Store) : Except StorageError (Nat × Tips) := do
  let keys ← s.unreferenced .transaction
  let nonSolid := (keys.map Hash.ofBytes).foldl join t.nonSolid
  return (nonSolid.length - t.nonSolid.length, { t with nonSolid })

end Tips

end TernaryGossip
