/-!
# Recently used entries

    A bounded table that forgets the entry that has not been used for the
    longest time.  The entries stand in the order of their last use, the
    most recent in front.  Reading a value with `touch?` and writing one with
    `put` are uses; asking with `contains` is not.
-/

namespace TernaryGossip

/-- Entries in the order of their last use, at most `capacity` of them. -/
structure Recent (κ ν : Type) where
  /-- The entries, the most recently used in front. -/
  entries : List (κ × ν)
  /-- How many entries fit, at least one. -/
  capacity : Nat

namespace Recent

variable {κ ν : Type} [DecidableEq κ]

/-- The empty table for `capacity` entries; a table always holds one. -/
def empty (capacity : Nat) : Recent κ ν := ⟨[], max capacity 1⟩

/-- The value under a key. -/
def find? (r : Recent κ ν) (k : κ) : Option ν :=
  (r.entries.find? fun e => e.1 = k).map (·.2)

/-- An entry of this key is there. -/
def contains (r : Recent κ ν) (k : κ) : Bool := (r.find? k).isSome

/-- The entries of other keys. -/
def others (r : Recent κ ν) (k : κ) : List (κ × ν) := r.entries.filter fun e => e.1 ≠ k

/-- Reads a value, which counts as a use. -/
def touch? (r : Recent κ ν) (k : κ) : Option ν × Recent κ ν :=
  match r.find? k with
  | some v => (some v, { r with entries := (k, v) :: r.others k })
  | none => (none, r)

/-- Writes a value and forgets what no longer fits. -/
def put (r : Recent κ ν) (k : κ) (v : ν) : Recent κ ν :=
  { r with entries := ((k, v) :: r.others k).take r.capacity }

end Recent

end TernaryGossip
