import TernaryGossip.Hash

/-!
# Wanted transactions

    The parents of stored transactions that a node does not have.  Every
    packet it sends asks for one of them.  They stand in a line: a new one
    joins at the end, the one that is asked for goes from the front to the
    end, and when the line is full the front leaves it.
-/

namespace TernaryGossip

/-- The line of wanted hashes, at most `capacity` of them. -/
structure Wanted where
  /-- The hashes, the next to ask for in front. -/
  line : List Hash
  /-- How many hashes fit, at least one. -/
  capacity : Nat

namespace Wanted

/-- The number of hashes that a node wants at most. -/
def defaultCapacity : Nat := 10000

/-- Nothing is wanted. -/
def empty (capacity : Nat) : Wanted := ⟨[], max capacity 1⟩

/-- The hash is wanted. -/
def contains (w : Wanted) (h : Hash) : Bool := w.line.contains h

/-- The number of wanted hashes. -/
def size (w : Wanted) : Nat := w.line.length

/-- Adds a hash; says whether it is new.  The null hash is never wanted. -/
def request (w : Wanted) (h : Hash) : Bool × Wanted :=
  if h.isNull ∨ w.contains h then (false, w)
  else
    let line := w.line ++ [h]
    (true, { w with line := if line.length > w.capacity then line.tail else line })

/-- Removes a hash; says whether it was wanted. -/
def clear (w : Wanted) (h : Hash) : Bool × Wanted :=
  (w.contains h, { w with line := w.line.filter (· ≠ h) })

/-- The hash to ask for next, which goes to the end of the line. -/
def next (w : Wanted) : Option Hash × Wanted :=
  match w.line with
  | [] => (none, w)
  | h :: rest => (some h, { w with line := rest ++ [h] })

end Wanted

end TernaryGossip
