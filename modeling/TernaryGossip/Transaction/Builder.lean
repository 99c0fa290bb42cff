import TernaryGossip.Transaction.Basic

/-!
# Building transactions

    A draft is the 8019 trits of a transaction in the making.  It starts as
    zeros and is filled field by field; finishing it packs the trits and
    derives the hash.  Nothing here searches for a nonce.
-/

namespace TernaryGossip

/-- The trits of a transaction in the making. -/
structure Draft where
  /-- The trits written so far. -/
  trits : Trits
  /-- A draft always has all of its places. -/
  length_trits : trits.length = 8019

namespace Draft

theorem length_zeros : (List.replicate 8019 0 : Trits).length = 8019 := List.length_replicate

/-- The draft of zeros. -/
def empty : Draft := ⟨List.replicate 8019 0, length_zeros⟩

instance : Inhabited Draft := ⟨empty⟩

/-- Writes places into a field, from its first one on. -/
def put (d : Draft) (f : Layout.Field) (content : Trits) : Draft :=
  if h : f.stop ≤ 8019 then
    ⟨f.write content d.trits, by rw [f.length_write content (d.length_trits ▸ h), d.length_trits]⟩
  else d

/-- Writes a hash into a field; zeros for a hash that is not valid. -/
def putHash (d : Draft) (f : Layout.Field) (h : Hash) : Draft :=
  match h.trits with
  | .ok ts => d.put f ts
  | .error _ => d.put f (List.replicate 243 0)

/-- Writes the low digits of a number into a field. -/
def putNumber (d : Draft) (f : Layout.Field) (v : Int) : Draft := d.put f (Balanced.digits f.size v)

/-- Writes the signature or message. -/
def signature (d : Draft) (ts : Trits) : Draft := d.put Layout.signature ts

/-- Writes the address. -/
def address (d : Draft) (h : Hash) : Draft := d.putHash Layout.address h

/-- Writes the amount into the usable trits. -/
def value (d : Draft) (v : Int) : Draft := d.putNumber Layout.usableValue v

/-- Writes the first 81 trits of a tag. -/
def tag (d : Draft) (h : Hash) : Draft := d.putHash Layout.tag h

/-- Writes the timestamp; numbers from `2 ^ 63` on count as negative. -/
def timestamp (d : Draft) (n : UInt64) : Draft := d.putNumber Layout.timestamp n.toInt64.toInt

/-- Writes the position in the bundle. -/
def currentIndex (d : Draft) (n : UInt64) : Draft := d.putNumber Layout.currentIndex n.toInt64.toInt

/-- Writes the last position in the bundle. -/
def lastIndex (d : Draft) (n : UInt64) : Draft := d.putNumber Layout.lastIndex n.toInt64.toInt

/-- Writes the bundle. -/
def bundle (d : Draft) (h : Hash) : Draft := d.putHash Layout.bundle h

/-- Writes the first parent. -/
def trunk (d : Draft) (h : Hash) : Draft := d.putHash Layout.trunk h

/-- Writes the second parent. -/
def branch (d : Draft) (h : Hash) : Draft := d.putHash Layout.branch h

/-- Writes the nonce. -/
def nonce (d : Draft) (h : Hash) : Draft := d.putHash Layout.nonce h

/-- Overwrites one place; a position outside of the transaction is ignored. -/
def setTrit (d : Draft) (i : Nat) (t : Int) : Draft :=
  ⟨d.trits.set i t, by rw [List.length_set, d.length_trits]⟩

/-- The finished transaction. -/
def build (d : Draft) : Transaction := Transaction.ofTrits d.trits

end Draft

end TernaryGossip
