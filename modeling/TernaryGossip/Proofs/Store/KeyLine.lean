import TernaryGossip.Proofs.Store.KeyOrder

/-! # Keys in a line

    The numbers and the hashes under which records are stored stand in a
    line.  Both can be numbered from zero on in their order (`Numbered`):
    the next value has the next number, the previous value the number
    before, and at the ends of the line a step stays where it is.  All that
    is said of the line follows from the numbering (`Numbered.line`).

    A number is its own number.  The number of a hash is the one that its
    bytes write, and stepping along the hashes is adding one with carries
    (`ofBigEndian_succBytes?`) and taking one away with borrows
    (`ofBigEndian_predBytes?`). -/

namespace TernaryGossip

namespace Key

section Line

variable {α : Type} [Ord α]

/-! ## The line -/

/-- The value `b` is greater than `a`, and no value lies between them. -/
def Follows (a b : α) : Prop :=
  compare a b = .lt ∧ ∀ c, ¬ (compare a c = .lt ∧ compare c b = .lt)

/-- The values stand in a line from `first` to `last`, on which `succ` and
    `pred` step, and the keys of the values are ordered as they are. -/
structure Line (key : α → Bytes) (succ pred : α → α) (first last : α) : Prop where
  /-- A value is less than another one exactly if its key comes before the
  other key lexicographically. -/
  lt_iff : ∀ a b, compare a b = .lt ↔ key a < key b
  /-- No value is less than the first one. -/
  not_lt_first : ∀ a, compare a first ≠ .lt
  /-- No value is greater than the last one. -/
  not_last_lt : ∀ a, compare last a ≠ .lt
  /-- Behind the last value a step stays. -/
  succ_last : succ last = last
  /-- Before the first value a step stays. -/
  pred_first : pred first = first
  /-- Any other value is followed by its successor. -/
  follows_succ : ∀ a, a ≠ last → Follows a (succ a)
  /-- Any other value follows its predecessor. -/
  pred_follows : ∀ a, a ≠ first → Follows (pred a) a
  /-- A step back undoes a step forth. -/
  pred_succ : ∀ a, a ≠ last → pred (succ a) = a
  /-- A step forth undoes a step back. -/
  succ_pred : ∀ a, a ≠ first → succ (pred a) = a

/-! ## Numbered values -/

/-- The values are numbered from zero on in their order, and a step changes
    the number by one or stays at an end. -/
structure Numbered (number : α → Nat) (succ pred : α → α) (first last : α) : Prop where
  /-- Values are ordered as their numbers are. -/
  compare_number : ∀ a b, compare (number a) (number b) = compare a b
  /-- The first value has the number zero. -/
  number_first : number first = 0
  /-- The last value has the greatest number. -/
  number_le_last : ∀ a, number a ≤ number last
  /-- A step forth adds one, but not beyond the greatest number. -/
  number_succ : ∀ a, number (succ a) = min (number a + 1) (number last)
  /-- A step back takes one away, but not below zero. -/
  number_pred : ∀ a, number (pred a) = number a - 1

namespace Numbered

variable {number : α → Nat} {succ pred : α → α} {first last : α}

theorem lt_iff (hn : Numbered number succ pred first last) (a b : α) :
    compare a b = .lt ↔ number a < number b := by
  rw [← hn.compare_number, Nat.compare_eq_lt]

/-- The value with the next number follows. -/
theorem follows (hn : Numbered number succ pred first last) {a b : α}
    (hnext : number b = number a + 1) : Follows a b := by
  unfold Follows
  simp only [hn.lt_iff]
  constructor
  · omega
  · intro c hbetween
    omega

variable [Std.LawfulEqOrd α]

theorem number_inj (hn : Numbered number succ pred first last) {a b : α} :
    number a = number b ↔ a = b := by
  rw [← Nat.compare_eq_eq, hn.compare_number, Std.LawfulEqOrd.compare_eq_iff_eq]

theorem lt_last (hn : Numbered number succ pred first last) {a : α} (hne : a ≠ last) :
    number a < number last :=
  Nat.lt_of_le_of_ne (hn.number_le_last a) fun heq => hne (hn.number_inj.mp heq)

theorem first_lt (hn : Numbered number succ pred first last) {a : α} (hne : a ≠ first) :
    0 < number a := by
  apply Nat.pos_of_ne_zero
  intro hzero
  exact hne (hn.number_inj.mp (hzero.trans hn.number_first.symm))

/-- Numbered values whose keys are in order stand in a line. -/
theorem line (hn : Numbered number succ pred first last) {key : α → Bytes}
    (hkey : ∀ a b, compare (key a) (key b) = compare a b) : Line key succ pred first last where
  lt_iff a b := by rw [← hkey, Bytes.compare_eq_lt_iff]
  not_lt_first a := by
    rw [Ne, hn.lt_iff, hn.number_first]
    exact Nat.not_lt_zero _
  not_last_lt a := by
    rw [Ne, hn.lt_iff]
    exact Nat.not_lt_of_le (hn.number_le_last a)
  succ_last := by
    apply hn.number_inj.mp
    rw [hn.number_succ]
    omega
  pred_first := by
    apply hn.number_inj.mp
    rw [hn.number_pred, hn.number_first]
  follows_succ a hne := by
    have hlt := hn.lt_last hne
    apply hn.follows
    rw [hn.number_succ]
    omega
  pred_follows a hne := by
    have hlt := hn.first_lt hne
    apply hn.follows
    rw [hn.number_pred]
    omega
  pred_succ a hne := by
    have hlt := hn.lt_last hne
    apply hn.number_inj.mp
    rw [hn.number_pred, hn.number_succ]
    omega
  succ_pred a hne := by
    have hlt := hn.first_lt hne
    have hle := hn.number_le_last a
    apply hn.number_inj.mp
    rw [hn.number_succ, hn.number_pred]
    omega

end Numbered

end Line

/-! ## Numbers -/

theorem toNat_indexSucc {i : UInt32} (h : i.toNat ≠ 4294967295) :
    (indexSucc i).toNat = i.toNat + 1 := by
  have hlt := i.toNat_lt
  rw [indexSucc, if_neg h, UInt32.toNat_add]
  exact Nat.mod_eq_of_lt (show i.toNat + 1 < 2 ^ 32 by omega)

theorem toNat_indexPred (i : UInt32) : (indexPred i).toNat = i.toNat - 1 := by
  unfold indexPred
  split
  · next hzero => rw [hzero]
  · next hpos =>
    have hle : (1 : UInt32) ≤ i := UInt32.le_iff_toNat_le.mpr (Nat.one_le_iff_ne_zero.mpr hpos)
    exact UInt32.toNat_sub_of_le _ _ hle

/-- The greatest number alone is its own successor. -/
theorem indexSucc_eq_self_iff {i : UInt32} : indexSucc i = i ↔ i.toNat = 4294967295 := by
  constructor
  · intro heq
    by_contra hmax
    have hsucc := toNat_indexSucc hmax
    rw [heq] at hsucc
    omega
  · exact fun hmax => if_pos hmax

/-- A number is its own number. -/
theorem numbered_index : Numbered UInt32.toNat indexSucc indexPred 0 4294967295 where
  compare_number i j := (UInt32.compare_eq_toNat_compare_toNat i j).symm
  number_first := rfl
  number_le_last i := Nat.le_of_lt_succ i.toNat_lt
  number_succ i := by
    have hlt := i.toNat_lt
    show (indexSucc i).toNat = min (i.toNat + 1) 4294967295
    by_cases hmax : i.toNat = 4294967295
    · rw [indexSucc_eq_self_iff.mpr hmax]
      omega
    · rw [toNat_indexSucc hmax]
      omega
  number_pred := toNat_indexPred

end Key

/-! ## Hashes -/

namespace Hash

/-- The next byte string writes the next number; where there is none, the
    next number needs one more byte. -/
theorem ofBigEndian_succBytes? (b : Bytes) :
    (succBytes? b).elim (256 ^ b.length) Bytes.ofBigEndian = Bytes.ofBigEndian b + 1 := by
  induction b with
  | nil => rfl
  | cons x b ih =>
    cases hnext : succBytes? b with
    | some c =>
      rw [hnext] at ih
      have hc : Bytes.ofBigEndian c = Bytes.ofBigEndian b + 1 := ih
      simp only [succBytes?, hnext, Option.elim]
      rw [Bytes.ofBigEndian_cons, Bytes.ofBigEndian_cons, length_of_succBytes? hnext, hc]
      omega
    | none =>
      rw [hnext] at ih
      have hcarry : 256 ^ b.length = Bytes.ofBigEndian b + 1 := ih
      simp only [succBytes?, hnext]
      split
      · next hx =>
        -- the carry goes through the first byte too
        have hbyte : x.toNat = 255 := by rw [hx]; rfl
        show 256 ^ (b.length + 1) = _
        rw [Bytes.ofBigEndian_cons, hbyte, Nat.pow_succ]
        omega
      · next hx =>
        -- the first byte takes the carry, and the bytes behind it start again
        show Bytes.ofBigEndian ((x + 1) :: List.replicate b.length 0) = _
        rw [Bytes.ofBigEndian_cons, Bytes.ofBigEndian_cons, Bytes.ofBigEndian_replicate_zero,
          List.length_replicate, Bytes.toNat_add_one hx, Nat.mul_succ]
        omega

/-- The previous byte string writes the previous number, and only zero has
    none. -/
theorem ofBigEndian_predBytes? (b : Bytes) :
    (predBytes? b).elim 0 (fun c => Bytes.ofBigEndian c + 1) = Bytes.ofBigEndian b := by
  induction b with
  | nil => rfl
  | cons x b ih =>
    cases hprev : predBytes? b with
    | some c =>
      rw [hprev] at ih
      have hc : Bytes.ofBigEndian c + 1 = Bytes.ofBigEndian b := ih
      simp only [predBytes?, hprev, Option.elim]
      rw [Bytes.ofBigEndian_cons, Bytes.ofBigEndian_cons, length_of_predBytes? hprev]
      omega
    | none =>
      rw [hprev] at ih
      have hborrow : 0 = Bytes.ofBigEndian b := ih
      simp only [predBytes?, hprev]
      split
      · next hx =>
        -- there is nothing to borrow from
        rw [hx, Bytes.ofBigEndian_cons, ← hborrow]
        rfl
      · next hx =>
        -- the first byte lends one, and the bytes behind it start from the top
        show Bytes.ofBigEndian ((x - 1) :: List.replicate b.length 255) + 1 = _
        rw [Bytes.ofBigEndian_cons, Bytes.ofBigEndian_cons, List.length_replicate,
          ← Bytes.toNat_sub_one hx, Nat.mul_succ, ← hborrow, ← Bytes.ofBigEndian_replicate_greatest]
        omega

/-- The number that the bytes of a hash write. -/
def number (h : Hash) : Nat := Bytes.ofBigEndian h.bytes

/-- The last hash: all its bits are ones. -/
def greatest : Hash := ⟨List.replicate 49 255, List.length_replicate⟩

theorem number_greatest : greatest.number + 1 = 256 ^ 49 :=
  Bytes.ofBigEndian_replicate_greatest 49

theorem number_null : null.number = 0 := Bytes.ofBigEndian_replicate_zero 49

theorem number_lt (h : Hash) : h.number < 256 ^ 49 := by
  have hlt := Bytes.ofBigEndian_lt h.bytes
  rw [h.length_bytes] at hlt
  exact hlt

theorem number_le_greatest (h : Hash) : h.number ≤ greatest.number := by
  have hlt := h.number_lt
  rw [← number_greatest] at hlt
  exact Nat.le_of_lt_succ hlt

theorem compare_number (g h : Hash) : compare g.number h.number = compare g h :=
  Bytes.compare_ofBigEndian (g.length_bytes.trans h.length_bytes.symm)

theorem number_succ (h : Hash) : h.succ.number = min (h.number + 1) greatest.number := by
  have hle := h.number_le_greatest
  have hstep := ofBigEndian_succBytes? h.bytes
  unfold succ
  split
  · next c hnext =>
    rw [hnext] at hstep
    have hc : Bytes.ofBigEndian c = h.number + 1 := hstep
    have hlength : c.length = 49 := (length_of_succBytes? hnext).trans h.length_bytes
    have hfits : Bytes.ofBigEndian c ≤ greatest.number := number_le_greatest ⟨c, hlength⟩
    show Bytes.ofBigEndian c = _
    omega
  · next hnext =>
    rw [hnext, h.length_bytes, ← number_greatest] at hstep
    have htop : greatest.number + 1 = h.number + 1 := hstep
    omega

theorem number_pred (h : Hash) : h.pred.number = h.number - 1 := by
  have hstep := ofBigEndian_predBytes? h.bytes
  unfold pred
  split
  · next c hprev =>
    rw [hprev] at hstep
    have hc : Bytes.ofBigEndian c + 1 = h.number := hstep
    show Bytes.ofBigEndian c = _
    omega
  · next hprev =>
    rw [hprev] at hstep
    have hzero : 0 = h.number := hstep
    omega

/-- A hash has the number that its bytes write. -/
theorem numbered : Key.Numbered number succ pred null greatest where
  compare_number := compare_number
  number_first := number_null
  number_le_last := number_le_greatest
  number_succ := number_succ
  number_pred := number_pred

end Hash

/-! ## Both lines -/

namespace Key

/-- The numbers stand in a line from zero to the greatest number of four
    bytes, and the hashes from the null hash to the hash of greatest bytes.

    On both, a value is less than another one exactly if its key comes before
    the other key.  Stepping forth goes to the next greater value, with no
    value in between, and stepping back to the next smaller; each step undoes
    the other, and at the end of the line it stays. -/
theorem keys_stand_in_line :
    Line ofIndex indexSucc indexPred 0 4294967295 ∧
    Line ofHash Hash.succ Hash.pred Hash.null Hash.greatest := by
  constructor
  · apply numbered_index.line
    intro i j
    rw [compare_ofIndex, UInt32.compare_eq_toNat_compare_toNat]
  · apply Hash.numbered.line
    intro g h
    rfl

/-- A byte is carried into the last but one place and borrowed back from it,
    and no hash lies between the two. -/
theorem keys_stand_in_line_carry :
    let h := Hash.ofBytes (List.replicate 48 0 ++ [255])
    h ≠ Hash.greatest ∧ h.succ = Hash.ofBytes (List.replicate 47 0 ++ [1]) ∧
      Follows h h.succ ∧ ofHash h < ofHash h.succ ∧ h.succ.pred = h := by
  intro h
  obtain ⟨-, hline⟩ := keys_stand_in_line
  have hne : h ≠ Hash.greatest := by decide
  have hfollows := hline.follows_succ h hne
  exact ⟨hne, by decide, hfollows, (hline.lt_iff h h.succ).mp hfollows.1, hline.pred_succ h hne⟩

end Key

end TernaryGossip
