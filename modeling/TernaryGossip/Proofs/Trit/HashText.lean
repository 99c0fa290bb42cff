import Mathlib.Tactic.IntervalCases
import TernaryGossip.Hash
import TernaryGossip.Proofs.Text.Utf8
import TernaryGossip.Proofs.Trit.Packing

/-! # Hashes as text

    A hash that is made from balanced trits is written as 81 trytes, and the
    text is read as the same hash.  Trits that are missing are zeros, and
    packing fills its last group with zeros anyway, so such a hash packs 243
    balanced trits; three of them make a tryte, which is an ASCII letter or
    the digit nine. -/

namespace TernaryGossip

/-! ## Trytes -/

namespace Tryte

theorem value?_ofValue {v : Int} (hlow : -13 ≤ v) (hhigh : v ≤ 13) :
    value? (ofValue v) = some v := by
  interval_cases v <;> decide

theorem ascii_alphabet : Ascii alphabet := by
  have hall : alphabet.all (fun c => c.toNat < 128) = true := by decide
  exact fun c hc => of_decide_eq_true (List.all_eq_true.mp hall c hc)

theorem toNat_ofValue_lt (v : Int) : (ofValue v).toNat < 128 := by
  have hposition : (v % 27).toNat < alphabet.length := by
    have hlength : alphabet.length = 27 := by decide
    omega
  rw [ofValue, List.getD_eq_getElem?_getD, List.getElem?_eq_getElem hposition, Option.getD_some]
  exact ascii_alphabet _ (List.getElem_mem hposition)

theorem ascii_chars (ts : Trits) : Ascii (chars ts) := by
  fun_induction chars ts with
  | case1 a b c rest ih =>
    intro x hx
    rcases List.mem_cons.mp hx with rfl | hx
    · exact toNat_ofValue_lt _
    · exact ih x hx
  | case2 ts _ => exact fun x hx => absurd hx List.not_mem_nil

theorem readChars_chars {ts : Trits} (h : ts.Balanced) (hlen : ts.length % 3 = 0) :
    readChars (chars ts) = .ok ts := by
  fun_induction chars ts with
  | case1 a b c rest ih =>
    have hgroup : Trits.Balanced [a, b, c] := fun x hx => h x (List.mem_append_left rest hx)
    have hlt : 2 * (Balanced.value [a, b, c]).natAbs < 3 ^ 3 := Balanced.natAbs_value_lt hgroup
    have hdigits : Balanced.digits 3 (Balanced.value [a, b, c]) = [a, b, c] :=
      Balanced.digits_value hgroup
    have hrest : readChars (chars rest) = .ok rest := by
      refine ih (fun x hx => h x (List.mem_append_right [a, b, c] hx)) ?_
      simp only [List.length_cons] at hlen
      omega
    rw [readChars, value?_ofValue (by omega) (by omega)]
    simp only [hrest, hdigits]
    rfl
  | case2 ts hshort =>
    -- fewer than three trits, and a multiple of three
    rcases ts with _ | ⟨a, _ | ⟨b, _ | ⟨c, rest⟩⟩⟩
    · rfl
    · simp at hlen
    · simp at hlen
    · exact absurd rfl (hshort a b c rest)

end Tryte

/-! ## Zeros behind -/

namespace Trits

/-- The first `n` places, with zeros where there are fewer. -/
def fit (n : Nat) (ts : Trits) : Trits := ts.take n ++ List.replicate (n - ts.length) 0

@[simp] theorem length_fit (n : Nat) (ts : Trits) : (ts.fit n).length = n := by
  simp [fit]; omega

theorem fit_of_length {n : Nat} {ts : Trits} (h : ts.length = n) : ts.fit n = ts := by
  simp [fit, ← h]

theorem fit_fit (n : Nat) (ts : Trits) : (ts.fit n).fit n = ts.fit n :=
  fit_of_length (ts.length_fit n)

theorem Balanced.fit {ts : Trits} (h : ts.Balanced) (n : Nat) : (ts.fit n).Balanced := by
  intro t ht
  rcases List.mem_append.mp ht with ht | ht
  · exact h t (List.mem_of_mem_take ht)
  · rw [List.eq_of_mem_replicate ht]
    decide

end Trits

namespace Balanced

theorem value_append_zeros (ts : Trits) (k : Nat) :
    value (ts ++ List.replicate k 0) = value ts := by
  induction ts with
  | nil =>
    induction k with
    | zero => rfl
    | succ k ih =>
      rw [List.nil_append] at ih
      rw [List.nil_append, List.replicate_succ, value_cons, ih]
      rfl
  | cons t ts ih => rw [List.cons_append, value_cons, value_cons, ih]

end Balanced

namespace Packed

theorem packGroup_append_zeros (g : Trits) (k : Nat) :
    packGroup (g ++ List.replicate k 0) = packGroup g := by
  rw [packGroup, packGroup, Balanced.value_append_zeros]

theorem pack_zeros (k : Nat) : pack (List.replicate k 0) = List.replicate ((k + 4) / 5) 0 := by
  induction k using Nat.strongRecOn with
  | ind k ih =>
    have hgroup : ∀ n, packGroup (List.replicate n 0) = 0 := fun n => packGroup_append_zeros [] n
    rcases Nat.lt_or_ge k 5 with hshort | hlong
    · rcases Nat.eq_zero_or_pos k with rfl | hpos
      · rfl
      · have hone : (k + 4) / 5 = 1 := by omega
        rw [pack_of_length (by simpa using hpos) (by simpa using Nat.le_of_lt hshort), hgroup, hone]
        rfl
    · obtain ⟨n, rfl⟩ := Nat.exists_eq_add_of_le hlong
      have hsucc : (5 + n + 4) / 5 = (n + 4) / 5 + 1 := by omega
      rw [← List.replicate_append_replicate, pack_append List.length_replicate, hgroup,
        ih n (by omega), hsucc]
      rfl

/-- Trits that are zero and stand behind the others are packed as zeros. -/
theorem pack_append_zeros (ts : Trits) (k : Nat) :
    ∃ n, pack (ts ++ List.replicate k 0) = pack ts ++ List.replicate n 0 := by
  fun_induction pack ts with
  | case1 a b c d e rest ih =>
    obtain ⟨n, hn⟩ := ih
    refine ⟨n, ?_⟩
    show packGroup [a, b, c, d, e] :: pack (rest ++ List.replicate k 0) = _
    rw [hn]
    rfl
  | case2 => exact ⟨_, pack_zeros k⟩
  | case3 group hshort hne =>
    have hpos : 0 < group.length := List.length_pos_iff.mpr hne
    rcases Nat.le_total (group.length + k) 5 with hfits | hover
    · -- all zeros go to the last group
      refine ⟨0, ?_⟩
      have hlen : (group ++ List.replicate k 0).length = group.length + k := by simp
      rw [pack_of_length (by omega) (by omega), packGroup_append_zeros]
      rfl
    · -- some zeros fill the last group, the others are packed by themselves
      have hle : group.length < 5 := by
        rcases group with _ | ⟨a, _ | ⟨b, _ | ⟨c, _ | ⟨d, _ | ⟨e, rest⟩⟩⟩⟩⟩
        · decide
        · simp
        · simp
        · simp
        · simp
        · exact absurd rfl (hshort a b c d e rest)
      have hsplit : k = (5 - group.length) + (k - (5 - group.length)) := by omega
      have hfull : (group ++ List.replicate (5 - group.length) (0 : Int)).length = 5 := by
        rw [List.length_append, List.length_replicate]
        omega
      refine ⟨(k - (5 - group.length) + 4) / 5, ?_⟩
      rw [hsplit, ← List.replicate_append_replicate, ← List.append_assoc, pack_append hfull,
        packGroup_append_zeros, pack_zeros, ← hsplit]
      rfl

end Packed

/-! ## Hashes -/

namespace Hash

/-- A hash that is made from balanced trits. -/
def Proper (h : Hash) : Prop := ∃ ts : Trits, ts.Balanced ∧ h = ofTrits ts

/-- A hash packs the trits that it is made from, with zeros behind them. -/
theorem bytes_ofTrits (ts : Trits) : (ofTrits ts).bytes = Packed.pack (ts.fit 243) := by
  obtain ⟨n, hn⟩ := Packed.pack_append_zeros (ts.take 243) (243 - ts.length)
  -- both fill the packed trits with zeros up to 49 bytes
  have hbytes := Packed.length_pack (ts.fit 243)
  rw [Trits.length_fit, Trits.fit, hn, List.length_append, List.length_replicate] at hbytes
  have hle : (Packed.pack (ts.take 243)).length ≤ 49 := by omega
  have hfill : 49 - (Packed.pack (ts.take 243)).length = n := by omega
  show Bytes.fit 49 (Packed.pack (ts.take 243)) = _
  rw [Trits.fit, hn, Bytes.fit, List.take_of_length_le hle, hfill]

/-- The trits of a hash are those that it was made from. -/
theorem trits_ofTrits {ts : Trits} (h : ts.Balanced) : (ofTrits ts).trits = .ok (ts.fit 243) := by
  have hread := Packed.unpack_pack (h.fit 243)
  rwa [Trits.length_fit, ← bytes_ofTrits] at hread

theorem ofTrits_fit (ts : Trits) : ofTrits (ts.fit 243) = ofTrits ts := by
  apply eq_of_bytes_eq
  rw [bytes_ofTrits, bytes_ofTrits, Trits.fit_fit]

/-- A proper hash packs 243 balanced trits. -/
theorem Proper.exists_trits {h : Hash} (hproper : h.Proper) :
    ∃ ts : Trits, ts.Balanced ∧ ts.length = 243 ∧ h.trits = .ok ts ∧ h = ofTrits ts := by
  obtain ⟨ts, hbalanced, rfl⟩ := hproper
  exact ⟨ts.fit 243, hbalanced.fit 243, ts.length_fit 243, trits_ofTrits hbalanced,
    (ofTrits_fit ts).symm⟩

/-- A proper hash is written as 81 ASCII characters, and read back. -/
theorem Proper.text {h : Hash} (hproper : h.Proper) :
    ∃ cs : List Char, h.toTrytes = String.ofList cs ∧ Ascii cs ∧ cs.length = 81 ∧
      ofTrytes (String.ofList cs) = .ok h := by
  obtain ⟨ts, hbalanced, hlen, htrits, hsame⟩ := hproper.exists_trits
  have hascii := Tryte.ascii_chars ts
  have hchars : (Tryte.chars ts).length = 81 := by rw [Tryte.length_chars, hlen]
  refine ⟨Tryte.chars ts, ?_, hascii, hchars, ?_⟩
  · have hwrite : Tryte.write ts = .ok (String.ofList (Tryte.chars ts)) := by
      rw [Tryte.write, if_pos (by rw [hlen])]
    simp only [toTrytes, htrits, bind, Except.bind, hwrite]
  · have hread : Tryte.read (String.ofList (Tryte.chars ts)) = .ok ts := by
      rw [Tryte.read, String.toList_ofList]
      exact Tryte.readChars_chars hbalanced (by rw [hlen])
    rw [ofTrytes, if_pos (by rw [Ascii.utf8ByteSize_ofList hascii, hchars]), hread]
    exact congrArg Except.ok hsame.symm

/-- The text of a proper hash is read as the hash. -/
theorem Proper.ofTrytes_toTrytes {h : Hash} (hproper : h.Proper) : ofTrytes h.toTrytes = .ok h := by
  obtain ⟨cs, htext, -, -, hread⟩ := hproper.text
  rw [htext, hread]

/-- Proper hashes are told apart by their texts. -/
theorem Proper.toTrytes_inj {a b : Hash} (ha : a.Proper) (hb : b.Proper) :
    a.toTrytes = b.toTrytes ↔ a = b := by
  constructor
  · intro heq
    have hread := ha.ofTrytes_toTrytes
    rw [heq, hb.ofTrytes_toTrytes] at hread
    exact (Except.ok.inj hread).symm
  · rintro rfl
    rfl

end Hash

end TernaryGossip
