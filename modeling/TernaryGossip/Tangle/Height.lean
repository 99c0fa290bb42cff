import TernaryGossip.Tangle.Record

/-!
# Heights

    The height of a transaction is its distance to the null hash along the
    trunk.  To find it, the trunk is followed down to the null hash, to a
    transaction whose height is known, or to one whose payload is not; from
    there each transaction on the way back gets one more than its trunk.
    If the way ends at an unknown payload, no height changes.

    Since no stored transaction is met twice on a chain without a circle, a
    descent never takes more steps than there are stored transactions.
-/

namespace TernaryGossip.Transaction

/-- Follows the trunk down from `trunk`; yields the hashes passed, the last
one in front, and the transaction at which the descent stops.  `steps`
bounds the descent. -/
def descend (s : Store) : Nat → List Hash → Transaction → Except StorageError (List Hash × Transaction)
  | 0, passed, trunk => .ok (passed, trunk)
  | steps + 1, passed, trunk =>
      if trunk.facts.height = 0 ∧ trunk.isFilled ∧ ¬trunk.hash.isNull then do
        let next ← load s trunk.trunk
        descend s steps (trunk.hash :: passed) next
      else .ok (passed, trunk)

/-- The height that follows from the trunk, if any does. -/
def heightAbove (trunk t : Transaction) : Option UInt64 :=
  if trunk.hash.isNull ∧ trunk.facts.height = 0 ∧ ¬t.hash.isNull then some 1
  else if trunk.isFilled ∧ 0 < trunk.facts.height ∧ t.facts.height = 0 then
    some (trunk.facts.height + 1)
  else none

/-- Gives a transaction the height that follows from its trunk; `none` when
none does. -/
def raise (t trunk : Transaction) (s : Store) :
    Option (Except StorageError Bool × Transaction × Store) :=
  (heightAbove trunk t).map fun height => t.learn s (.height height)

/-- Gives heights to the transactions passed on the way down, and at the
end to the transaction `t` where the descent began. -/
def ascend (t : Transaction) (s : Store) :
    List Hash → Transaction → Except StorageError Unit × Transaction × Store
  | [], trunk =>
      match t.raise trunk s with
      | none => (.ok (), t, s)
      | some (result, t, s) => (result.map fun _ => (), t, s)
  | h :: passed, trunk =>
      if h = t.hash then
        match t.raise trunk s with
        | none => (.ok (), t, s)
        | some (result, t, s) => (result.map fun _ => (), t, s)
      else
        match load s h with
        | .error e => (.error e, t, s)
        | .ok here =>
            match here.raise trunk s with
            | none => (.ok (), t, s)
            | some (.error e, _, s) => (.error e, t, s)
            | some (.ok _, here, s) => ascend t s passed here

/-- Gives heights along the trunk of a transaction. -/
def updateHeights (t : Transaction) (s : Store) : Except StorageError Unit × Transaction × Store :=
  match load s t.trunk with
  | .error e => (.error e, t, s)
  | .ok trunk =>
      match descend s (s.totalSize .transaction + 1) [] trunk with
      | .error e => (.error e, t, s)
      | .ok (passed, bottom) => ascend t s passed bottom

end TernaryGossip.Transaction
