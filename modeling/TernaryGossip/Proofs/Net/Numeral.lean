import TernaryGossip.Net.Address

/-! # Numerals

    A number is written as its digits and read as long as digits follow.  So
    it is read back from its numeral as long as the text goes on with
    something else (`number?_toDigits`). -/

namespace TernaryGossip

/-! ## As long as a condition holds -/

/-- The text ends, or goes on with a character that does not satisfy a
    condition. -/
def Stops (p : Char → Bool) (rest : List Char) : Prop := ∀ c, rest.head? = some c → p c = false

theorem stops_nil (p : Char → Bool) : Stops p [] := fun _ h => by cases h

theorem stops_cons {p : Char → Bool} {c : Char} (hc : p c = false) (rest : List Char) :
    Stops p (c :: rest) := fun d h => by
  cases h
  exact hc

theorem takeWhile_of_stops {p : Char → Bool} {cs rest : List Char} (hcs : ∀ c ∈ cs, p c = true)
    (hrest : Stops p rest) : (cs ++ rest).takeWhile p = cs := by
  have hnone : rest.takeWhile p = [] := by
    cases rest with
    | nil => rfl
    | cons c rest => rw [List.takeWhile_cons_of_neg (by rw [hrest c rfl]; decide)]
  rw [List.takeWhile_append_of_pos hcs, hnone, List.append_nil]

theorem dropWhile_of_stops {p : Char → Bool} {cs : List Char} (h : Stops p cs) :
    cs.dropWhile p = cs := by
  cases cs with
  | nil => rfl
  | cons c cs => rw [List.dropWhile_cons_of_neg (by rw [h c rfl]; decide)]

theorem stops_dropWhile (p : Char → Bool) (cs : List Char) : Stops p (cs.dropWhile p) := by
  intro c hc
  have hhead := List.head?_dropWhile_not p cs
  rwa [hc] at hhead

theorem drop_length_takeWhile (p : Char → Bool) (cs : List Char) :
    cs.drop (cs.takeWhile p).length = cs.dropWhile p := by
  have hsplit : cs.takeWhile p ++ cs.dropWhile p = cs := List.takeWhile_append_dropWhile
  calc cs.drop (cs.takeWhile p).length
      = (cs.takeWhile p ++ cs.dropWhile p).drop (cs.takeWhile p).length := by rw [hsplit]
    _ = cs.dropWhile p := List.drop_left

/-- What the characters end with that satisfy a condition is none of them. -/
theorem head?_dropWhile_ne {p : Char → Bool} {d : Char} {cs rest : List Char} (hcs : d ∉ cs)
    (hrest : Stops p rest) (hd : rest.head? ≠ some d) :
    ((cs ++ rest).dropWhile p).head? ≠ some d := by
  induction cs with
  | nil =>
    cases rest with
    | nil => exact hd
    | cons c rest =>
      rw [List.nil_append, List.dropWhile_cons_of_neg (by rw [hrest c rfl]; decide)]
      exact hd
  | cons c cs ih =>
    rw [List.cons_append]
    by_cases hc : p c = true
    · rw [List.dropWhile_cons_of_pos hc]
      exact ih (List.not_mem_of_not_mem_cons hcs)
    · rw [List.dropWhile_cons_of_neg hc]
      exact fun h => List.ne_of_not_mem_cons hcs (Option.some.inj h).symm

/-! ## Digits of a number -/

/-- The digits of a number are digits of the base. -/
theorem exists_digit_of_mem_toDigits {base n : Nat} (hbase : 1 < base) {c : Char}
    (h : c ∈ Nat.toDigits base n) : ∃ d, d < base ∧ c = Nat.digitChar d := by
  induction n using Nat.strongRecOn with
  | ind n ih =>
    rcases Nat.lt_or_ge n base with hlt | hge
    · rw [Nat.toDigits_of_lt_base hlt, List.mem_singleton] at h
      exact ⟨n, hlt, h⟩
    · rw [Nat.toDigits_of_base_le hbase hge, List.mem_append, List.mem_singleton] at h
      rcases h with h | h
      · exact ih (n / base) (Nat.div_lt_self (by omega) hbase) h
      · exact ⟨n % base, Nat.mod_lt n (by omega), h⟩

namespace IpAddress

section numeral
variable {read : Char → Option Nat} {base : Nat}

/-- The digits of a number have the number as their value. -/
theorem foldl_toDigits (hbase : 1 < base) (hread : ∀ d < base, read (Nat.digitChar d) = some d)
    (n : Nat) :
    (Nat.toDigits base n).foldl (fun acc c => base * acc + (read c).getD 0) 0 = n := by
  induction n using Nat.strongRecOn with
  | ind n ih =>
    rcases Nat.lt_or_ge n base with hlt | hge
    · rw [Nat.toDigits_of_lt_base hlt, List.foldl_cons, List.foldl_nil, hread n hlt,
        Option.getD_some, Nat.mul_zero, Nat.zero_add]
    · rw [Nat.toDigits_of_base_le hbase hge, List.foldl_append,
        ih (n / base) (Nat.div_lt_self (by omega) hbase), List.foldl_cons, List.foldl_nil,
        hread (n % base) (Nat.mod_lt n (by omega)), Option.getD_some, Nat.div_add_mod]

/-- A number is read back from its numeral. -/
theorem number?_toDigits (hbase : 1 < base) (hread : ∀ d < base, read (Nat.digitChar d) = some d)
    {limit n : Nat} (hlen : (Nat.toDigits base n).length ≤ limit) {rest : List Char}
    (hrest : Stops (fun c => (read c).isSome) rest) :
    number? read base limit (Nat.toDigits base n ++ rest) = some (n, rest) := by
  have hdigits : ∀ c ∈ Nat.toDigits base n, (read c).isSome = true := by
    intro c hc
    obtain ⟨d, hd, rfl⟩ := exists_digit_of_mem_toDigits hbase hc
    rw [hread d hd]
    rfl
  rw [number?, takeWhile_of_stops hdigits hrest, List.drop_left, foldl_toDigits hbase hread n,
    if_neg]
  rintro (hnil | hlong)
  · exact Nat.toDigits_ne_nil (List.isEmpty_iff.mp hnil)
  · omega

/-- Without a digit there is no number. -/
theorem number?_of_stops (base limit : Nat) {cs : List Char}
    (h : Stops (fun c => (read c).isSome) cs) : number? read base limit cs = none := by
  have hnone : cs.takeWhile (fun c => (read c).isSome) = [] :=
    takeWhile_of_stops (List.forall_mem_nil _) h
  rw [number?, hnone]
  rfl

end numeral

/-! ## Decimal and hexadecimal digits -/

theorem digit?_digitChar : ∀ d < 10, digit? (Nat.digitChar d) = some d := by decide

theorem hexDigit?_digitChar : ∀ d < 16, hexDigit? (Nat.digitChar d) = some d := by decide

theorem isSome_hexDigit?_of_digit? {c : Char} (h : (digit? c).isSome) : (hexDigit? c).isSome := by
  unfold digit? at h
  split at h
  · next hdigit =>
    rw [hexDigit?, if_pos hdigit]
    rfl
  · cases h

/-- Where no hexadecimal digit follows, no decimal digit does. -/
theorem stops_digit? {rest : List Char} (h : Stops (fun c => (hexDigit? c).isSome) rest) :
    Stops (fun c => (digit? c).isSome) rest := by
  intro c hc
  have hhex : (hexDigit? c).isSome = false := h c hc
  exact Bool.eq_false_iff.mpr fun hdigit => by
    rw [isSome_hexDigit?_of_digit? hdigit] at hhex
    cases hhex

end IpAddress

end TernaryGossip
