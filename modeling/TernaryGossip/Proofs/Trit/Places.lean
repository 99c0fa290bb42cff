import TernaryGossip.Proofs.Trit.HashForm

/-! # Packed bytes, place by place

    Each place of packed trits has its own byte and its own digit there, so
    what is read can be told without reading: `tritAt` looks up one place,
    and reading succeeds with the trits at all of them (`unpack_eq_tritsAt`).
    If it fails, then at the first byte that is no group
    (`unpackFrom_error_iff`).

    The weight of a hash is told by how its trits end: it is at least `n` if
    and only if the last `n` of them are zero. -/

namespace TernaryGossip

namespace Balanced

/-- How many places are read does not change what stands in one of them. -/
theorem getElem?_digits {m n i : Nat} (v : Int) (hm : i < m) (hn : i < n) :
    (digits m v)[i]? = (digits n v)[i]? := by
  induction i generalizing m n v with
  | zero =>
    obtain ⟨m, rfl⟩ := Nat.exists_eq_succ_of_ne_zero (Nat.ne_of_gt hm)
    obtain ⟨n, rfl⟩ := Nat.exists_eq_succ_of_ne_zero (Nat.ne_of_gt hn)
    rfl
  | succ i ih =>
    obtain ⟨m, rfl⟩ := Nat.exists_eq_succ_of_ne_zero (Nat.ne_zero_of_lt hm)
    obtain ⟨n, rfl⟩ := Nat.exists_eq_succ_of_ne_zero (Nat.ne_zero_of_lt hn)
    simp only [digits, List.getElem?_cons_succ]
    exact ih (shift v) (Nat.lt_of_succ_lt_succ hm) (Nat.lt_of_succ_lt_succ hn)

end Balanced

namespace Packed

/-! ## One place -/

/-- The trit at a place: a digit of the byte that has the place. -/
def tritAt (b : Bytes) (place : Nat) : Int :=
  (Balanced.digits 5 (SignedByte.value (b.getD (place / 5) 0))).getD (place % 5) 0

/-- The trits at the first places. -/
def tritsAt (n : Nat) (b : Bytes) : Trits := (List.range n).map (tritAt b)

@[simp] theorem length_tritsAt (n : Nat) (b : Bytes) : (tritsAt n b).length = n := by
  simp [tritsAt]

theorem getElem?_tritsAt {n i : Nat} (b : Bytes) (hi : i < n) :
    (tritsAt n b)[i]? = some (tritAt b i) := by
  simp [tritsAt, hi]

theorem tritAt_cons_low (x : UInt8) (bs : Bytes) {i : Nat} (hi : i < 5) :
    tritAt (x :: bs) i = (Balanced.digits 5 (SignedByte.value x)).getD i 0 := by
  have hbyte : i / 5 = 0 := Nat.div_eq_of_lt hi
  rw [tritAt, hbyte, Nat.mod_eq_of_lt hi, List.getD_cons_zero]

theorem tritAt_cons_high (x : UInt8) (bs : Bytes) (i : Nat) :
    tritAt (x :: bs) (5 + i) = tritAt bs i := by
  have hbyte : (5 + i) / 5 = i / 5 + 1 := by omega
  rw [tritAt, tritAt, hbyte, Nat.add_mod_left, List.getD_cons_succ]

/-! ## All places -/

/-- What is read stands at the places, if there are bytes for all of them. -/
theorem getElem?_of_unpackFrom {position : Nat} {b : Bytes} {places ts : Trits}
    (hlen : b.length = (places.length + 4) / 5) (h : unpackFrom position b places = .ok ts)
    {i : Nat} (hi : i < places.length) : ts[i]? = some (tritAt b i) := by
  induction b generalizing position places ts i with
  | nil =>
    rw [List.length_nil] at hlen
    omega
  | cons x bs ih =>
    have hx : IsGroup x := (unpackFrom_ok_iff hlen).mp ⟨ts, h⟩ x List.mem_cons_self
    rw [List.length_cons] at hlen
    rw [unpackFrom_cons hx position bs (List.ne_nil_of_length_pos (by omega))] at h
    cases hr : unpackFrom (position + 1) bs (places.drop 5) with
    | error e => rw [hr] at h; cases h
    | ok rest =>
      rw [hr] at h
      cases h
      have hfirst : (Balanced.digits (min 5 places.length) (SignedByte.value x)).length =
          min 5 places.length := Balanced.length_digits _ _
      -- five places belong to the first byte, and the others to those behind it
      rcases Nat.lt_or_ge i 5 with hlow | hhigh
      · have hdigit : i < min 5 places.length := by omega
        rw [List.getElem?_append_left (by rw [hfirst]; exact hdigit), tritAt_cons_low x bs hlow,
          Balanced.getElem?_digits _ hdigit hlow, List.getD_eq_getElem?_getD,
          List.getElem?_eq_getElem (by rw [Balanced.length_digits]; exact hlow), Option.getD_some]
      · obtain ⟨j, rfl⟩ := Nat.exists_eq_add_of_le hhigh
        have hmin : min 5 places.length = 5 := by omega
        rw [List.getElem?_append_right (by omega), hfirst, hmin, Nat.add_sub_cancel_left,
          tritAt_cons_high]
        exact ih (by rw [List.length_drop]; omega) hr (by rw [List.length_drop]; omega)

/-- Bytes that can be read are read as the trits at their places. -/
theorem unpack_eq_tritsAt {n : Nat} {b : Bytes} (hlen : b.length = (n + 4) / 5) (hvalid : Valid b) :
    unpack n b = .ok (tritsAt n b) := by
  obtain ⟨ts, h⟩ := (unpack_ok_iff hlen).mpr hvalid
  have hplaces : (List.replicate n (0 : Int)).length = n := List.length_replicate
  have hts : ts = tritsAt n b := by
    apply List.ext_getElem?
    intro i
    rcases Nat.lt_or_ge i n with hi | hi
    · rw [getElem?_tritsAt b hi]
      exact getElem?_of_unpackFrom (by rw [hplaces, hlen]) h (by rw [hplaces]; exact hi)
    · rw [List.getElem?_eq_none (by rw [length_of_unpack h]; exact hi),
        List.getElem?_eq_none (by rw [length_tritsAt]; exact hi)]
  rw [h, hts]

/-! ## The first byte that cannot be read -/

/-- A byte that is no group stands behind groups alone. -/
def FirstBad (b : Bytes) (x : UInt8) (position : Nat) : Prop :=
  b[position]? = some x ∧ ¬ IsGroup x ∧ Valid (b.take position)

theorem firstBad_cons_zero (x y : UInt8) (bs : Bytes) :
    FirstBad (x :: bs) y 0 ↔ x = y ∧ ¬ IsGroup y := by
  simp [FirstBad, Valid]

theorem firstBad_cons_succ (x y : UInt8) (bs : Bytes) (i : Nat) :
    FirstBad (x :: bs) y (i + 1) ↔ IsGroup x ∧ FirstBad bs y i := by
  simp only [FirstBad, Valid, List.getElem?_cons_succ, List.take_succ_cons, List.forall_mem_cons]
  constructor
  · rintro ⟨hget, hbad, hx, hvalid⟩
    exact ⟨hx, hget, hbad, hvalid⟩
  · rintro ⟨hx, hget, hbad, hvalid⟩
    exact ⟨hget, hbad, hx, hvalid⟩

/-- There is a first byte that is no group unless all are. -/
theorem exists_firstBad {b : Bytes} (h : ¬ Valid b) : ∃ x i, FirstBad b x i := by
  induction b with
  | nil => exact absurd (fun x hx => absurd hx List.not_mem_nil) h
  | cons x bs ih =>
    by_cases hx : IsGroup x
    · have hrest : ¬ Valid bs := fun hbs => h (List.forall_mem_cons.mpr ⟨hx, hbs⟩)
      obtain ⟨y, i, hfirst⟩ := ih hrest
      exact ⟨y, i + 1, (firstBad_cons_succ x y bs i).mpr ⟨hx, hfirst⟩⟩
    · exact ⟨x, 0, (firstBad_cons_zero x x bs).mpr ⟨rfl, hx⟩⟩

theorem unpackFrom_of_firstBad {position : Nat} {b : Bytes} {places : Trits}
    (hlen : b.length = (places.length + 4) / 5) {x : UInt8} {i : Nat} (h : FirstBad b x i) :
    unpackFrom position b places = .error (.invalidByte (SignedByte.value x) (position + i)) := by
  induction b generalizing position places i with
  | nil =>
    have hget := h.1
    simp at hget
  | cons y bs ih =>
    rw [List.length_cons] at hlen
    have hplaces : places ≠ [] := List.ne_nil_of_length_pos (by omega)
    cases i with
    | zero =>
      obtain ⟨rfl, hbad⟩ := (firstBad_cons_zero y x bs).mp h
      rw [unpackFrom, if_neg hbad]
      · rfl
      · exact hplaces
    | succ i =>
      obtain ⟨hy, hrest⟩ := (firstBad_cons_succ y x bs i).mp h
      have hshift : position + 1 + i = position + (i + 1) := by omega
      rw [unpackFrom_cons hy position bs hplaces,
        ih (by rw [List.length_drop]; omega) hrest, hshift]
      rfl

theorem unpack_of_firstBad {n : Nat} {b : Bytes} (hlen : b.length = (n + 4) / 5) {x : UInt8}
    {i : Nat} (h : FirstBad b x i) :
    unpack n b = .error (.invalidByte (SignedByte.value x) i) := by
  have hplaces : b.length = ((List.replicate n (0 : Int)).length + 4) / 5 := by
    rw [List.length_replicate, hlen]
  have hread : unpackFrom 0 b (List.replicate n 0) =
      .error (.invalidByte (SignedByte.value x) (0 + i)) := unpackFrom_of_firstBad hplaces h
  rwa [Nat.zero_add] at hread

end Packed

/-! ## Zeros at the end -/

/-- A list begins with as many equal entries as can be taken from its front. -/
theorem le_length_takeWhile_beq_iff (n : Nat) (l : Trits) :
    n ≤ (l.takeWhile (· == 0)).length ↔ ∃ rest, l = List.replicate n 0 ++ rest := by
  induction n generalizing l with
  | zero => exact iff_of_true (Nat.zero_le _) ⟨l, rfl⟩
  | succ n ih =>
    cases l with
    | nil => simp [List.replicate_succ]
    | cons t l =>
      by_cases ht : t = 0
      · rw [ht, List.takeWhile_cons_of_pos (by decide), List.length_cons,
          Nat.succ_le_succ_iff, ih]
        simp [List.replicate_succ]
      · rw [List.takeWhile_cons_of_neg (by simpa using ht)]
        simp [List.replicate_succ, ht]

namespace Hash

/-- The trits of the hash end in zeros. -/
def EndsInZeros (h : Hash) (n : Nat) : Prop :=
  ∃ front : Trits, h.trits = .ok (front ++ List.replicate n 0)

/-- The weight is the greatest number of zeros in which the trits end. -/
theorem endsInZeros_iff {h : Hash} (hvalid : h.Valid) (n : Nat) :
    h.EndsInZeros n ↔ n ≤ h.weight := by
  obtain ⟨ts, htrits⟩ := exists_trits_iff.mpr hvalid
  simp only [EndsInZeros, weight, htrits, Except.ok.injEq, le_length_takeWhile_beq_iff]
  constructor
  · rintro ⟨front, rfl⟩
    exact ⟨front.reverse, by rw [List.reverse_append, List.reverse_replicate]⟩
  · rintro ⟨rest, hrest⟩
    refine ⟨rest.reverse, ?_⟩
    rw [← List.reverse_reverse ts, hrest, List.reverse_append, List.reverse_replicate]

theorem weight_eq_of_endsInZeros {h : Hash} (hvalid : h.Valid) {n : Nat} (hends : h.EndsInZeros n)
    (hmost : ¬ h.EndsInZeros (n + 1)) : h.weight = n := by
  rw [endsInZeros_iff hvalid] at hends hmost
  omega

end Hash

end TernaryGossip
