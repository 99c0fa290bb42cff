import TernaryGossip.Text.Utf8

/-! # Text is read back

    The bytes of a text are those of its characters, one to four for each.
    The first byte of a character says how many more belong to it and what
    the second may be, so reading them gives the character and leaves what
    follows.  Every text is therefore read back from its bytes.

    A text of ASCII characters has one byte for each. -/

namespace TernaryGossip

/-! ## The bytes of a text -/

namespace Bytes

theorem toNat_ofNat {n : Nat} (h : n < 256) : (UInt8.ofNat n).toNat = n := by
  rw [UInt8.toNat_ofNat', Nat.mod_eq_of_lt h]

/-- The bytes of an array are listed from a position on, behind those that
    were taken already, in reverse. -/
theorem toList_loop (b : ByteArray) (i : Nat) (taken : Bytes) :
    ByteArray.toList.loop b i taken = taken.reverse ++ b.data.toList.drop i := by
  fun_induction ByteArray.toList.loop b i taken with
  | case1 i taken hlt ih =>
    have hpos : i < b.data.toList.length := hlt
    rw [ih, List.drop_eq_getElem_cons hpos]
    simp [ByteArray.get!, getElem!_pos b.data i hlt]
  | case2 i taken hge =>
    have hend : b.data.toList.length ≤ i := Nat.le_of_not_lt hge
    rw [List.drop_eq_nil_of_le hend, List.append_nil]

theorem ofText_eq_data (s : String) : ofText s = s.toByteArray.data.toList :=
  toList_loop s.toByteArray 0 []

theorem ofText_ofList (cs : List Char) :
    ofText (String.ofList cs) = cs.flatMap String.utf8EncodeChar := by
  rw [ofText_eq_data, String.toByteArray_ofList, List.utf8Encode, List.toList_data_toByteArray]

theorem length_ofText (s : String) : (ofText s).length = s.utf8ByteSize := by
  rw [ofText_eq_data]
  rfl

end Bytes

/-! ## Reading a character -/

namespace Utf8

/-- The last byte of a character completes it. -/
theorem pieces_last {low high code size n : Nat} (hn : n < 256) (hlow : low ≤ n) (hhigh : n ≤ high)
    (rest : Bytes) :
    pieces (some ⟨1, low, high, code, size⟩) (UInt8.ofNat n :: rest) =
      .char (Char.ofNat (64 * code + (n - 0x80))) (size + 1) :: pieces none rest := by
  rw [pieces, Bytes.toNat_ofNat hn]
  simp only [hlow, hhigh, and_self, if_true]

/-- A byte in the middle of a character is taken, and one less is owed. -/
theorem pieces_middle {owed low high code size n : Nat} (hn : n < 256) (hlow : low ≤ n)
    (hhigh : n ≤ high) (rest : Bytes) :
    pieces (some ⟨owed + 2, low, high, code, size⟩) (UInt8.ofNat n :: rest) =
      pieces (some ⟨owed + 1, 0x80, 0xbf, 64 * code + (n - 0x80), size + 1⟩) rest := by
  rw [pieces, Bytes.toNat_ofNat hn]
  simp only [hlow, hhigh, and_self, if_true]
  rw [if_neg (by omega)]
  rfl

/-- A byte that is a whole character is read as it. -/
theorem pieces_whole {n : Nat} {c : Char} (hn : n < 256) (hlead : lead n = .whole c)
    (rest : Bytes) : pieces none (UInt8.ofNat n :: rest) = .char c 1 :: pieces none rest := by
  rw [pieces, Bytes.toNat_ofNat hn, hlead]

/-- A byte that begins a longer character is taken. -/
theorem pieces_begun {n : Nat} {p : Pending} (hn : n < 256) (hlead : lead n = .begun p)
    (rest : Bytes) : pieces none (UInt8.ofNat n :: rest) = pieces (some p) rest := by
  rw [pieces, Bytes.toNat_ofNat hn, hlead]

/-! The first byte of a character with the number `v` says its size, and
    bounds the second byte such that no shorter form has this number, that it
    is no surrogate and that it is not above the last one. -/

theorem lead_two {v : Nat} (hlow : 0x7f < v) (hhigh : v ≤ 0x7ff) :
    lead (v / 64 % 32 + 192) = .begun ⟨1, 0x80, 0xbf, v / 64, 1⟩ := by
  have hcode : v / 64 % 32 + 192 - 0xc0 = v / 64 := by omega
  rw [lead, if_neg (by omega), if_pos (by omega), hcode]

theorem lead_three {v : Nat} (hhigh : v ≤ 0xffff) :
    lead (v / 4096 % 16 + 224) =
      .begun ⟨2, if v / 4096 = 0 then 0xa0 else 0x80, if v / 4096 = 13 then 0x9f else 0xbf,
        v / 4096, 1⟩ := by
  have hfirst : (v / 4096 % 16 + 224 = 0xe0) = (v / 4096 = 0) := by
    rw [eq_iff_iff]
    omega
  have hlast : (v / 4096 % 16 + 224 = 0xed) = (v / 4096 = 13) := by
    rw [eq_iff_iff]
    omega
  have hcode : v / 4096 % 16 + 224 - 0xe0 = v / 4096 := by omega
  rw [lead, if_neg (by omega), if_neg (by omega), if_pos (by omega)]
  simp only [hfirst, hlast, hcode]

theorem lead_four {v : Nat} (hhigh : v < 0x110000) :
    lead (v / 262144 % 8 + 240) =
      .begun ⟨3, if v / 262144 = 0 then 0x90 else 0x80, if v / 262144 = 4 then 0x8f else 0xbf,
        v / 262144, 1⟩ := by
  have hfirst : (v / 262144 % 8 + 240 = 0xf0) = (v / 262144 = 0) := by
    rw [eq_iff_iff]
    omega
  have hlast : (v / 262144 % 8 + 240 = 0xf4) = (v / 262144 = 4) := by
    rw [eq_iff_iff]
    omega
  have hcode : v / 262144 % 8 + 240 - 0xf0 = v / 262144 := by omega
  rw [lead, if_neg (by omega), if_neg (by omega), if_neg (by omega), if_pos (by omega)]
  simp only [hfirst, hlast, hcode]

/-- The bytes of a character are read as this character. -/
theorem pieces_utf8EncodeChar (c : Char) (rest : Bytes) :
    ∃ size, pieces none (String.utf8EncodeChar c ++ rest) = .char c size :: pieces none rest := by
  have hvalid : c.toNat < 0xd800 ∨ 0xdfff < c.toNat ∧ c.toNat < 0x110000 := c.valid
  have hback : Char.ofNat c.toNat = c := Char.ofNat_toNat c
  have hval : c.val.toNat = c.toNat := rfl
  generalize c.toNat = v at hvalid hback hval
  simp only [String.utf8EncodeChar, hval]
  by_cases hone : v ≤ 0x7f
  · refine ⟨1, ?_⟩
    have hlead : lead v = .whole c := by rw [lead, if_pos hone, hback]
    rw [if_pos hone, List.singleton_append, pieces_whole (by omega) hlead]
  rw [if_neg hone]
  by_cases htwo : v ≤ 0x7ff
  · refine ⟨2, ?_⟩
    have hcode : 64 * (v / 64) + (v % 64 + 128 - 0x80) = v := by omega
    rw [if_pos htwo, List.cons_append, List.singleton_append,
      pieces_begun (by omega) (lead_two (by omega) htwo),
      pieces_last (by omega) (by omega) (by omega), hcode, hback]
  rw [if_neg htwo]
  by_cases hthree : v ≤ 0xffff
  · refine ⟨3, ?_⟩
    have hcode :
        64 * (64 * (v / 4096) + (v / 64 % 64 + 128 - 0x80)) + (v % 64 + 128 - 0x80) = v := by
      omega
    have hlow : (if v / 4096 = 0 then 0xa0 else 0x80) ≤ v / 64 % 64 + 128 := by split <;> omega
    have hhigh : v / 64 % 64 + 128 ≤ if v / 4096 = 13 then 0x9f else 0xbf := by split <;> omega
    rw [if_pos hthree, List.cons_append, List.cons_append, List.singleton_append,
      pieces_begun (by omega) (lead_three hthree), pieces_middle (by omega) hlow hhigh,
      pieces_last (by omega) (by omega) (by omega), hcode, hback]
  · refine ⟨4, ?_⟩
    have hcode : 64 * (64 * (64 * (v / 262144) + (v / 4096 % 64 + 128 - 0x80)) +
        (v / 64 % 64 + 128 - 0x80)) + (v % 64 + 128 - 0x80) = v := by omega
    have hlow : (if v / 262144 = 0 then 0x90 else 0x80) ≤ v / 4096 % 64 + 128 := by split <;> omega
    have hhigh : v / 4096 % 64 + 128 ≤ if v / 262144 = 4 then 0x8f else 0xbf := by split <;> omega
    rw [if_neg hthree, List.cons_append, List.cons_append, List.cons_append, List.singleton_append,
      pieces_begun (by omega) (lead_four (by omega)), pieces_middle (by omega) hlow hhigh,
      pieces_middle (by omega) (by omega) (by omega), pieces_last (by omega) (by omega) (by omega),
      hcode, hback]

/-! ## Reading a text -/

theorem strict_pieces (cs : List Char) (position : Nat) :
    strict position (pieces none (cs.flatMap String.utf8EncodeChar)) = .ok cs := by
  induction cs generalizing position with
  | nil => rfl
  | cons c cs ih =>
    obtain ⟨size, hpieces⟩ := pieces_utf8EncodeChar c (cs.flatMap String.utf8EncodeChar)
    rw [List.flatMap_cons, hpieces, strict, ih]
    rfl

/-- Every text is read back from its bytes. -/
theorem read_ofText (s : String) : read (Bytes.ofText s) = .ok s := by
  have hs : s = String.ofList s.toList := String.ofList_toList.symm
  rw [hs, Bytes.ofText_ofList, read, strict_pieces]
  rfl

end Utf8

/-! ## ASCII -/

/-- Every character has a number below 128. -/
def Ascii (cs : List Char) : Prop := ∀ c ∈ cs, c.toNat < 128

theorem Ascii.utf8ByteSize_ofList {cs : List Char} (h : Ascii cs) :
    (String.ofList cs).utf8ByteSize = cs.length := by
  rw [← Bytes.length_ofText, Bytes.ofText_ofList]
  induction cs with
  | nil => rfl
  | cons c cs ih =>
    obtain ⟨hc, hcs⟩ := List.forall_mem_cons.mp h
    have hone : (String.utf8EncodeChar c).length = 1 := by
      have hle : c.val.toNat ≤ 0x7f := Nat.le_of_lt_succ hc
      simp only [String.utf8EncodeChar, if_pos hle, List.length_singleton]
    rw [List.flatMap_cons, List.length_append, hone, ih hcs, List.length_cons, Nat.add_comm]

end TernaryGossip
