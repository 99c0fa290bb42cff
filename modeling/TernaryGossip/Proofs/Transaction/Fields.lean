import Mathlib.Data.List.Basic
import TernaryGossip.Proofs.Transaction.Legible
import TernaryGossip.Proofs.Trit.HashText
import TernaryGossip.Transaction.Builder

/-! # The fields of a transaction in the making

    Writing a field changes the places of that field and no others, so the
    fields that stand apart from it read as before.  Places that the content
    does not reach keep what they hold; in a field of zeros the content is
    therefore read back with zeros behind it.

    The fields that can be set stand apart from each other, and from the
    trits of the amount that have to be zero, which no one can set. -/

namespace TernaryGossip

namespace Layout

namespace Field

/-- Two fields have no place in common. -/
def Apart (f g : Field) : Prop := f.stop ≤ g.offset ∨ g.stop ≤ f.offset

instance (f g : Field) : Decidable (f.Apart g) := inferInstanceAs (Decidable (_ ∨ _))

theorem getElem?_read (f : Field) (ts : Trits) (i : Nat) :
    (f.read ts)[i]? = if i < f.size then ts[f.offset + i]? else none := by
  rw [read, List.getElem?_take, List.getElem?_drop]

/-- The content stands from the first place of the field on, and every other
    place holds what it held. -/
theorem getElem?_write {f : Field} {ts : Trits} (hstop : f.stop ≤ ts.length) (content : Trits)
    (i : Nat) :
    (f.write content ts)[i]? =
      if f.offset ≤ i ∧ i < f.offset + (content.take f.size).length
      then (content.take f.size)[i - f.offset]? else ts[i]? := by
  have hfront : (ts.take f.offset).length = f.offset := by
    unfold stop at hstop
    rw [List.length_take]
    omega
  simp only [write, List.append_assoc]
  by_cases hbefore : i < f.offset
  · rw [List.getElem?_append_left (by omega), List.getElem?_take_of_lt hbefore, if_neg (by omega)]
  · rw [List.getElem?_append_right (by omega), hfront]
    by_cases hinside : i < f.offset + (content.take f.size).length
    · rw [List.getElem?_append_left (by omega), if_pos (by omega)]
    · rw [List.getElem?_append_right (by omega), List.getElem?_drop, if_neg (by omega)]
      congr 1
      omega

theorem read_write_of_apart {f g : Field} (h : f.Apart g) {ts : Trits} (hstop : f.stop ≤ ts.length)
    (content : Trits) : g.read (f.write content ts) = g.read ts := by
  apply List.ext_getElem?
  intro i
  rw [getElem?_read, getElem?_read]
  by_cases hi : i < g.size
  · -- no place of the one field is a place of the other
    have houtside : ¬ (f.offset ≤ g.offset + i ∧
        g.offset + i < f.offset + (content.take f.size).length) := by
      have hlen : (content.take f.size).length ≤ f.size := List.length_take_le _ _
      unfold Apart stop at h
      omega
    rw [getElem?_write hstop, if_neg houtside]
  · rw [if_neg hi, if_neg hi]

/-- What is written into a field of zeros is read with zeros behind it. -/
theorem read_write_of_zeros {f : Field} {ts : Trits} (hstop : f.stop ≤ ts.length)
    (hzeros : f.read ts = List.replicate f.size 0) (content : Trits) :
    f.read (f.write content ts) = content.fit f.size := by
  apply List.ext_getElem?
  intro i
  rw [getElem?_read, Trits.fit]
  have hlen : (content.take f.size).length = min f.size content.length := List.length_take
  by_cases hi : i < f.size
  · rw [if_pos hi, getElem?_write hstop, Nat.add_sub_cancel_left]
    by_cases hcontent : i < content.length
    · rw [if_pos (by omega), List.getElem?_append_left (by omega)]
    · -- behind the content the field holds what it held
      have hzero := getElem?_read f ts i
      rw [hzeros, List.getElem?_replicate_of_lt hi, if_pos hi] at hzero
      rw [if_neg (by omega), List.getElem?_append_right (by omega), ← hzero,
        List.getElem?_replicate_of_lt (by omega)]
  · rw [if_neg hi, List.getElem?_eq_none]
    rw [List.length_append, List.length_replicate]
    omega

theorem balanced_read {ts : Trits} (h : ts.Balanced) (f : Field) : (f.read ts).Balanced :=
  fun t ht => h t (List.mem_of_mem_drop (List.mem_of_mem_take ht))

theorem balanced_write {ts content : Trits} (h : ts.Balanced) (hcontent : content.Balanced)
    (f : Field) : (f.write content ts).Balanced := by
  intro t ht
  simp only [write, List.mem_append] at ht
  rcases ht with (ht | ht) | ht
  · exact h t (List.mem_of_mem_take ht)
  · exact hcontent t (List.mem_of_mem_take ht)
  · exact h t (List.mem_of_mem_drop ht)

end Field

/-! ## The fields that can be set -/

/-- The fields that can be set; of the amount, the trits that can be used. -/
def settable : List Field :=
  [signature, address, usableValue, tag, timestamp, currentIndex, lastIndex, bundle, trunk, branch,
    nonce]

theorem stop_le_of_settable : ∀ f ∈ settable, f.stop ≤ 8019 := by decide

theorem apart_of_settable : ∀ f ∈ settable, ∀ g ∈ settable, f ≠ g → f.Apart g := by decide

theorem apart_unusedValue : ∀ f ∈ settable, f.Apart unusedValue := by decide

end Layout

/-! ## Drafts -/

namespace Draft

theorem trits_put {f : Layout.Field} (h : f.stop ≤ 8019) (d : Draft) (content : Trits) :
    (d.put f content).trits = f.write content d.trits := by
  rw [put, dif_pos h]

theorem read_empty {f : Layout.Field} (h : f.stop ≤ 8019) :
    f.read empty.trits = List.replicate f.size 0 := by
  unfold Layout.Field.stop at h
  rw [empty, Layout.read_zeros, Nat.min_eq_left (by omega)]

theorem balanced_empty : empty.trits.Balanced := by
  intro t ht
  rw [List.eq_of_mem_replicate ht]
  decide

theorem fill_trits (d : Draft) : Transaction.fill d.trits = d.trits :=
  Trits.fit_of_length d.length_trits

/-- A draft of balanced trits is a payload that decodes to what is built. -/
theorem decode_build {d : Draft} (h : d.trits.Balanced) :
    Transaction.decode d.build.payload = .ok d.build :=
  Transaction.decode_ok_iff.mpr
    ⟨Transaction.ofStored_ok_iff.mpr ⟨rfl, rfl, rfl, Transaction.legible_ofTrits h⟩, rfl⟩

end Draft

end TernaryGossip
