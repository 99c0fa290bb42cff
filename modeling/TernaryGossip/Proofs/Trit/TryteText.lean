import TernaryGossip.Proofs.Trit.HashText
import TernaryGossip.Transaction.Layout

/-! # Trytes one by one

    A text can be read as trits if and only if its characters are those of
    the tryte alphabet, and what was read is written as the same text.  Each
    character has three trits of its own: so the trits from a multiple of
    three on, and up to a multiple of three, are written with the characters
    from a third of it on, and up to a third of it.

    Hence a field that is cut out of trits is written as the characters cut
    out of the text, even if on the way it is packed five trits to a byte,
    as a hash is. -/

namespace TernaryGossip

namespace Tryte

/-! ## Reading -/

/-- Each character of the alphabet stands for a number of three trits, which
    is written as that character. -/
theorem exists_value?_of_mem {c : Char} (h : c ∈ alphabet) :
    ∃ v, value? c = some v ∧ ofValue v = c ∧ -13 ≤ v ∧ v ≤ 13 := by
  have hall : alphabet.all (fun c => (value? c).any fun v =>
      ofValue v == c && decide (-13 ≤ v) && decide (v ≤ 13)) = true := by decide
  have hc := List.all_eq_true.mp hall c h
  cases hv : value? c with
  | none =>
    rw [hv] at hc
    cases hc
  | some v =>
    rw [hv] at hc
    simp only [Option.any_some, Bool.and_eq_true, beq_iff_eq, decide_eq_true_eq] at hc
    exact ⟨v, rfl, hc.1.1, hc.1.2, hc.2⟩

theorem mem_of_value? {c : Char} {v : Int} (h : value? c = some v) : c ∈ alphabet := by
  by_contra hc
  rw [value?, List.idxOf?_eq_none_iff.mpr hc] at h
  cases h

theorem readChars_cons {c : Char} {v : Int} (h : value? c = some v) (cs : List Char) :
    readChars (c :: cs) = (readChars cs).map (Balanced.digits 3 v ++ ·) := by
  simp only [readChars, h]
  cases readChars cs <;> rfl

/-- A text is read if all of its characters are trytes. -/
theorem exists_readChars_iff (cs : List Char) :
    (∃ ts, readChars cs = .ok ts) ↔ ∀ c ∈ cs, c ∈ alphabet := by
  induction cs with
  | nil => exact iff_of_true ⟨[], rfl⟩ fun c hc => absurd hc List.not_mem_nil
  | cons c cs ih =>
    rw [List.forall_mem_cons, ← ih]
    constructor
    · rintro ⟨ts, h⟩
      cases hv : value? c with
      | none =>
        simp only [readChars, hv] at h
        cases h
      | some v =>
        rw [readChars_cons hv] at h
        cases hcs : readChars cs with
        | error e => rw [hcs] at h; cases h
        | ok rest => exact ⟨mem_of_value? hv, rest, rfl⟩
    · rintro ⟨hc, rest, hrest⟩
      obtain ⟨v, hv, -⟩ := exists_value?_of_mem hc
      exact ⟨_, by rw [readChars_cons hv, hrest]; rfl⟩

/-- What is read from a text is written as the text. -/
theorem chars_of_readChars {cs : List Char} {ts : Trits} (h : readChars cs = .ok ts) :
    ts.Balanced ∧ ts.length = 3 * cs.length ∧ chars ts = cs := by
  induction cs generalizing ts with
  | nil =>
    cases h
    exact ⟨fun t ht => absurd ht List.not_mem_nil, rfl, rfl⟩
  | cons c cs ih =>
    have hc := (exists_readChars_iff (c :: cs)).mp ⟨ts, h⟩ c List.mem_cons_self
    obtain ⟨v, hv, hwrite, hlow, hhigh⟩ := exists_value?_of_mem hc
    rw [readChars_cons hv] at h
    cases hcs : readChars cs with
    | error e => rw [hcs] at h; cases h
    | ok rest =>
      rw [hcs] at h
      cases h
      obtain ⟨hbalanced, hlen, hchars⟩ := ih hcs
      have hdigits := Balanced.balanced_digits 3 v
      -- three trits carry every number of a character
      have hvalue : Balanced.value (Balanced.digits 3 v) = v :=
        Balanced.value_digits_of_lt (by omega)
      refine ⟨fun t ht => (List.mem_append.mp ht).elim (hdigits t) (hbalanced t), ?_, ?_⟩
      · rw [List.length_append, Balanced.length_digits, hlen, List.length_cons]
        omega
      · show ofValue (Balanced.value (Balanced.digits 3 v)) :: chars rest = c :: cs
        rw [hvalue, hwrite, hchars]

/-! ## Writing parts -/

/-- Characters are written for each three trits. -/
theorem chars_append_three {g : Trits} (hg : g.length = 3) (ts : Trits) :
    chars (g ++ ts) = ofValue (Balanced.value g) :: chars ts := by
  match g, hg with
  | [a, b, c], _ => rfl

theorem chars_of_length_lt {ts : Trits} (h : ts.length < 3) : chars ts = [] :=
  List.eq_nil_of_length_eq_zero (by rw [length_chars]; omega)

theorem chars_drop (ts : Trits) (k : Nat) : chars (ts.drop (3 * k)) = (chars ts).drop k := by
  induction k generalizing ts with
  | zero => rfl
  | succ k ih =>
    -- fewer than three trits are no character, so nothing is left on either side
    rcases Nat.lt_or_ge ts.length 3 with hshort | hlong
    · rw [List.drop_eq_nil_of_le (by omega), chars_of_length_lt hshort, List.drop_nil]
      rfl
    · have hg : (ts.take 3).length = 3 := by rw [List.length_take]; omega
      have hchars := chars_append_three hg (ts.drop 3)
      rw [List.take_append_drop] at hchars
      rw [hchars, List.drop_succ_cons, ← ih, List.drop_drop, Nat.mul_succ, Nat.add_comm]

theorem chars_take (ts : Trits) (k : Nat) : chars (ts.take (3 * k)) = (chars ts).take k := by
  induction k generalizing ts with
  | zero => rfl
  | succ k ih =>
    rcases Nat.lt_or_ge ts.length 3 with hshort | hlong
    · rw [List.take_of_length_le (by omega), chars_of_length_lt hshort, List.take_nil]
    · have hg : (ts.take 3).length = 3 := by rw [List.length_take]; omega
      have hchars := chars_append_three hg (ts.drop 3)
      rw [List.take_append_drop] at hchars
      rw [hchars, List.take_succ_cons, ← ih, Nat.mul_succ, Nat.add_comm, List.take_add,
        chars_append_three hg]

theorem chars_append {ts : Trits} {k : Nat} (hts : ts.length = 3 * k) (us : Trits) :
    chars (ts ++ us) = chars ts ++ chars us := by
  have hfront := chars_take (ts ++ us) k
  have hback := chars_drop (ts ++ us) k
  rw [← hts, List.take_left] at hfront
  rw [← hts, List.drop_left] at hback
  rw [hfront, hback, List.take_append_drop]

theorem chars_zeros (k : Nat) : chars (List.replicate (3 * k) 0) = List.replicate k '9' := by
  induction k with
  | zero => rfl
  | succ k ih =>
    have hnine : ofValue (Balanced.value (List.replicate 3 0)) = '9' := by decide
    rw [Nat.mul_succ, Nat.add_comm, ← List.replicate_append_replicate,
      chars_append_three List.length_replicate, ih, hnine, List.replicate_succ]

/-- The characters of a field. -/
def field (f : Layout.Field) (cs : List Char) : List Char :=
  (cs.drop (f.offset / 3)).take (f.size / 3)

/-- A field of trits that begins and ends between characters is written as
    the field of the text. -/
theorem chars_read {f : Layout.Field} (hoffset : 3 ∣ f.offset) (hsize : 3 ∣ f.size) (ts : Trits) :
    chars (f.read ts) = field f (chars ts) := by
  obtain ⟨i, hi⟩ := hoffset
  obtain ⟨n, hn⟩ := hsize
  have hthird : ∀ m, 3 * m / 3 = m := fun m => Nat.mul_div_cancel_left m (by decide)
  rw [Layout.Field.read, field, hi, hn, chars_take, chars_drop, hthird, hthird]

end Tryte

/-! ## Hashes -/

namespace Hash

/-- A hash is written as the trits that it is made from, with nines for the
    zeros behind them. -/
theorem toTrytes_ofTrits {ts : Trits} (h : ts.Balanced) {k : Nat} (hlen : ts.length = 3 * k)
    (hk : k ≤ 81) :
    (ofTrits ts).toTrytes = String.ofList (Tryte.chars ts ++ List.replicate (81 - k) '9') := by
  have hwrite : Tryte.write (ts.fit 243) = .ok (String.ofList (Tryte.chars (ts.fit 243))) := by
    rw [Tryte.write, if_pos (by rw [Trits.length_fit])]
  have hzeros : 243 - ts.length = 3 * (81 - k) := by omega
  have hchars : Tryte.chars (ts.fit 243) = Tryte.chars ts ++ List.replicate (81 - k) '9' := by
    rw [Trits.fit, List.take_of_length_le (by omega), hzeros, Tryte.chars_append hlen,
      Tryte.chars_zeros]
  simp only [toTrytes, trits_ofTrits h, bind, Except.bind, hwrite, hchars]

/-- The text of a hash: 81 characters of the tryte alphabet. -/
def IsText (text : String) : Prop :=
  text.toList.length = 81 ∧ ∀ c ∈ text.toList, c ∈ Tryte.alphabet

/-- A text of trytes names one hash, whose text it is. -/
theorem ofTrytes_ok_iff (text : String) : (∃ h, ofTrytes text = .ok h) ↔ IsText text := by
  have hread : Tryte.read text = Tryte.readChars text.toList := rfl
  -- trytes are ASCII characters, so there are as many bytes as characters
  have hbytes : (∀ c ∈ text.toList, c ∈ Tryte.alphabet) →
      text.utf8ByteSize = text.toList.length := by
    intro hall
    have hsize := Ascii.utf8ByteSize_ofList fun c hc => Tryte.ascii_alphabet c (hall c hc)
    rwa [String.ofList_toList] at hsize
  unfold ofTrytes IsText
  rw [hread]
  constructor
  · rintro ⟨h, hh⟩
    split at hh
    · next hlen =>
      cases hts : Tryte.readChars text.toList with
      | error e => rw [hts] at hh; cases hh
      | ok ts =>
        have hall := (Tryte.exists_readChars_iff text.toList).mp ⟨ts, hts⟩
        exact ⟨by rw [← hbytes hall, hlen], hall⟩
    · cases hh
  · rintro ⟨hlen, hall⟩
    obtain ⟨ts, hts⟩ := (Tryte.exists_readChars_iff text.toList).mpr hall
    refine ⟨ofTrits ts, ?_⟩
    rw [if_pos (by rw [hbytes hall, hlen]), hts]
    rfl

theorem toTrytes_of_ofTrytes {text : String} {h : Hash} (hh : ofTrytes text = .ok h) :
    h.toTrytes = text := by
  have htext := (ofTrytes_ok_iff text).mp ⟨h, hh⟩
  unfold ofTrytes at hh
  split at hh
  · cases hts : Tryte.readChars text.toList with
    | error e =>
      rw [Tryte.read, hts] at hh
      cases hh
    | ok ts =>
      rw [Tryte.read, hts] at hh
      obtain ⟨hbalanced, hlen, hchars⟩ := Tryte.chars_of_readChars hts
      rw [htext.1] at hlen
      rw [← Except.ok.inj hh]
      show (ofTrits ts).toTrytes = text
      rw [toTrytes_ofTrits hbalanced (k := 81) hlen (Nat.le_refl 81), hchars]
      show String.ofList (text.toList ++ []) = text
      rw [List.append_nil, String.ofList_toList]
  · cases hh

end Hash

end TernaryGossip
