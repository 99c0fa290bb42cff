import TernaryGossip.Proofs.Net.Numeral

/-! # Addresses are read back from their text

    A 32-bit address is four decimal numbers, and each is read up to the dot
    behind it.  A 128-bit address is read group by group.  The groups in front
    of a gap end at its two colons, those behind it at the end of the text,
    and zeros fill up the eight.  Where two groups could be a decimal address,
    this is tried first; a group is none, since no dot follows it. -/

namespace TernaryGossip.IpAddress

/-! ## Decimal addresses -/

theorem octet?_toDigits {n : Nat} (hn : n < 256) {rest : List Char}
    (hrest : Stops (fun c => (digit? c).isSome) rest) :
    octet? (Nat.toDigits 10 n ++ rest) = some (n, rest) := by
  have hlen : (Nat.toDigits 10 n).length ≤ 3 :=
    (Nat.length_toDigits_le_iff (by decide) (by decide)).mpr (by omega)
  -- only zero itself begins with zero
  have hzero : ∀ m < 256, (Nat.toDigits 10 m).head? = some '0' →
      (Nat.toDigits 10 m).length ≤ 1 := by decide +kernel
  have hhead : (Nat.toDigits 10 n ++ rest).head? = (Nat.toDigits 10 n).head? := by
    cases hdigits : Nat.toDigits 10 n with
    | nil => exact absurd hdigits Nat.toDigits_ne_nil
    | cons c cs => rfl
  rw [octet?, number?_toDigits (by decide) digit?_digitChar hlen hrest]
  show (if _ then none else some (n, rest)) = _
  rw [if_neg]
  rintro (hlarge | ⟨hlead, hlong⟩)
  · omega
  · rw [hhead] at hlead
    have := hzero n hn hlead
    rw [List.length_append] at hlong
    omega

theorem ofOctets_octets (bits : BitVec 32) : ofOctets (octets bits) = bits := by
  have hlt := bits.isLt
  apply BitVec.eq_of_toNat_eq
  simp only [ofOctets, octets, List.foldl_cons, List.foldl_nil, BitVec.toNat_ofNat]
  omega

theorem octetText_toList (bits : BitVec 32) :
    (octetText bits).toList =
      Nat.toDigits 10 (bits.toNat / 16777216 % 256) ++ '.' ::
      (Nat.toDigits 10 (bits.toNat / 65536 % 256) ++ '.' ::
      (Nat.toDigits 10 (bits.toNat / 256 % 256) ++ '.' ::
      Nat.toDigits 10 (bits.toNat % 256))) := by
  simp [octetText, octets]

/-- A 32-bit address is read back, whatever follows it but a digit. -/
theorem v4?_octetText (bits : BitVec 32) {rest : List Char}
    (hrest : Stops (fun c => (digit? c).isSome) rest) :
    v4? ((octetText bits).toList ++ rest) = some (bits, rest) := by
  have hdot : ∀ cs, Stops (fun c => (digit? c).isSome) ('.' :: cs) := stops_cons (by decide)
  have hmod : ∀ n, n % 256 < 256 := fun n => Nat.mod_lt n (by decide)
  have hchar : ∀ cs, char? '.' ('.' :: cs) = some cs := fun cs => rfl
  simp only [octetText_toList, List.append_assoc, List.cons_append]
  rw [v4?, octet?_toDigits (hmod _) (hdot _)]
  simp only [Option.bind_eq_bind, Option.bind_some, hchar, octet?_toDigits (hmod _) (hdot _),
    octet?_toDigits (hmod _) hrest]
  exact congrArg (fun b => some (b, rest)) (ofOctets_octets bits)

/-- A byte is read as far as there are digits. -/
theorem rest_of_octet? {cs rest : List Char} {n : Nat} (h : octet? cs = some (n, rest)) :
    rest = cs.dropWhile fun c => (digit? c).isSome := by
  rw [octet?, number?, drop_length_takeWhile] at h
  split at h
  · cases h
  · change (if _ then none else some (_, cs.dropWhile fun c => (digit? c).isSome)) = _ at h
    split at h
    · cases h
    · cases h
      rfl

/-- Digits with no dot behind them do not begin a decimal address. -/
theorem v4?_eq_none {cs : List Char}
    (h : (cs.dropWhile fun c => (digit? c).isSome).head? ≠ some '.') : v4? cs = none := by
  rw [v4?]
  cases hread : octet? cs with
  | none => rfl
  | some r =>
    obtain ⟨n, rest⟩ := r
    rw [← rest_of_octet? hread] at h
    have hchar : char? '.' rest = none := by
      cases rest with
      | nil => rfl
      | cons c rest => exact if_neg fun hc => h (congrArg some hc)
    simp [hchar]

/-! ## Groups -/

/-- Neither a hexadecimal digit nor a dot follows. -/
def Ends (rest : List Char) : Prop :=
  Stops (fun c => (hexDigit? c).isSome) rest ∧ rest.head? ≠ some '.'

theorem ends_colon (rest : List Char) : Ends (':' :: rest) :=
  ⟨stops_cons (by decide) rest, fun h => by cases h⟩

/-- A group is not the beginning of a decimal address. -/
theorem v4?_group (p : Nat) {rest : List Char} (hrest : Ends rest) :
    v4? (Nat.toDigits 16 p ++ rest) = none := by
  refine v4?_eq_none (head?_dropWhile_ne (fun hmem => ?_) (stops_digit? hrest.1) hrest.2)
  obtain ⟨d, hd, hdot⟩ := exists_digit_of_mem_toDigits (by decide) hmem
  have hall : ∀ d < 16, '.' ≠ Nat.digitChar d := by decide
  exact hall d hd hdot

/-- What stands behind the colon that every group but the first has in
    front of it. -/
def body? (first : Bool) (cs : List Char) : Option (List Char) :=
  if first then some cs else char? ':' cs

/-- One group is read, and then those after it. -/
theorem groups?_group {limit p : Nat} {first : Bool} {cs rest : List Char} (hp : p < 65536)
    (hbody : body? first cs = some (Nat.toDigits 16 p ++ rest))
    (hrest : Ends rest) :
    groups? (limit + 1) first cs =
      (p :: (groups? limit false rest).1, (groups? limit false rest).2) := by
  have hlen : (Nat.toDigits 16 p).length ≤ 4 :=
    (Nat.length_toDigits_le_iff (by decide) (by decide)).mpr (by omega)
  have hnumber : (some (Nat.toDigits 16 p ++ rest) >>= number? hexDigit? 16 4) = some (p, rest) :=
    number?_toDigits (by decide) hexDigit?_digitChar hlen hrest.1
  -- the decimal form is tried first
  have hdecimal :
      (if limit = 0 then none else some (Nat.toDigits 16 p ++ rest) >>= v4?) = none := by
    split
    · rfl
    · exact v4?_group p hrest
  rw [groups?, ← body?, hbody]
  simp only [hdecimal, hnumber]

/-- Where there is room for two groups, a decimal address is read as these. -/
theorem groups?_decimal {limit : Nat} {first : Bool} {cs body rest : List Char} {bits : BitVec 32}
    (hlimit : limit ≠ 0) (hbody : body? first cs = some body)
    (hread : v4? body = some (bits, rest)) :
    groups? (limit + 1) first cs = ([bits.toNat / 65536, bits.toNat % 65536], true, rest) := by
  rw [groups?, ← body?, hbody]
  simp only [if_neg hlimit, Option.bind_eq_bind, Option.bind_some, hread]

/-- Groups end where no further digit follows. -/
theorem groups?_stop (limit : Nat) {first : Bool} {cs : List Char}
    (h : ∀ body, body? first cs = some body → Ends body) :
    groups? limit first cs = ([], false, cs) := by
  cases limit with
  | zero => rw [groups?]
  | succ limit =>
    rw [groups?, ← body?]
    cases hbody : body? first cs with
    | none => simp
    | some body =>
      have hends := h body hbody
      have hdecimal : v4? body = none :=
        v4?_eq_none (head?_dropWhile_ne List.not_mem_nil (stops_digit? hends.1) hends.2)
      have hnumber := number?_of_stops 16 4 hends.1
      simp [hdecimal, hnumber]

/-- Groups, each with a colon in front. -/
def continued (ps : List Nat) : List Char := ps.flatMap fun p => ':' :: Nat.toDigits 16 p

theorem ends_continued (ps : List Nat) {rest : List Char} (hrest : Ends rest) :
    Ends (continued ps ++ rest) := by
  cases ps with
  | nil => exact hrest
  | cons p ps => exact ends_colon _

theorem groupsText_cons (p : Nat) (ps : List Nat) :
    (groupsText (p :: ps)).toList = Nat.toDigits 16 p ++ continued ps := by
  induction ps generalizing p with
  | nil => simp [groupsText, groupText, continued]
  | cons q ps ih =>
    have hq := ih q
    simp only [groupsText, List.map_cons] at hq ⊢
    rw [String.intercalate_cons_cons, String.toList_append, String.toList_append, hq]
    simp [groupText, continued]

theorem groups?_continued {ps : List Nat} (hps : ∀ p ∈ ps, p < 65536) (limit : Nat)
    {rest : List Char} (hrest : Ends rest) :
    groups? (ps.length + limit) false (continued ps ++ rest) =
      (ps ++ (groups? limit false rest).1, (groups? limit false rest).2) := by
  induction ps with
  | nil => simp [continued]
  | cons p ps ih =>
    obtain ⟨hp, hps⟩ := List.forall_mem_cons.mp hps
    have hlen : (p :: ps).length + limit = ps.length + limit + 1 := by
      rw [List.length_cons]
      omega
    have hbody : body? false (continued (p :: ps) ++ rest) =
        some (Nat.toDigits 16 p ++ (continued ps ++ rest)) := by
      rw [← List.append_assoc]
      rfl
    rw [hlen, groups?_group hp hbody (ends_continued ps hrest), ih hps]
    rfl

/-- Groups with colons between them are read back. -/
theorem groups?_groupsText {ps : List Nat} (hps : ∀ p ∈ ps, p < 65536) (limit : Nat)
    {rest : List Char} (hrest : Ends rest)
    (hstop : ∀ first, groups? limit first rest = ([], false, rest)) :
    groups? (ps.length + limit) true ((groupsText ps).toList ++ rest) = (ps, false, rest) := by
  cases ps with
  | nil =>
    rw [List.length_nil, Nat.zero_add]
    exact hstop true
  | cons p ps =>
    obtain ⟨hp, hps⟩ := List.forall_mem_cons.mp hps
    have hlen : (p :: ps).length + limit = ps.length + limit + 1 := by
      rw [List.length_cons]
      omega
    have hbody : body? true ((groupsText (p :: ps)).toList ++ rest) =
        some (Nat.toDigits 16 p ++ (continued ps ++ rest)) := by
      rw [groupsText_cons, List.append_assoc]
      rfl
    rw [hlen, groups?_group hp hbody (ends_continued ps hrest), groups?_continued hps limit hrest,
      hstop false, List.append_nil]

/-- Nothing follows that could belong to an address. -/
def Closes (rest : List Char) : Prop := Ends rest ∧ rest.head? ≠ some ':'

theorem closes_nil : Closes [] := ⟨⟨stops_nil _, by decide⟩, by decide⟩

theorem closes_cons {c : Char} (hdigit : (hexDigit? c).isSome = false) (hdot : c ≠ '.')
    (hcolon : c ≠ ':') (rest : List Char) : Closes (c :: rest) :=
  ⟨⟨stops_cons hdigit rest, fun h => hdot (Option.some.inj h)⟩,
    fun h => hcolon (Option.some.inj h)⟩

theorem groups?_closes (limit : Nat) (first : Bool) {rest : List Char} (h : Closes rest) :
    groups? limit first rest = ([], false, rest) := by
  refine groups?_stop limit fun body hbody => ?_
  cases first with
  | true =>
    cases hbody
    exact h.1
  | false =>
    -- a further group would begin with a colon
    have hnone : char? ':' rest = none := by
      cases rest with
      | nil => rfl
      | cons c rest => exact if_neg fun hc => h.2 (congrArg some hc)
    rw [body?, if_neg Bool.false_ne_true, hnone] at hbody
    cases hbody

theorem groups?_gap (limit : Nat) (first : Bool) (cs : List Char) :
    groups? limit first (':' :: ':' :: cs) = ([], false, ':' :: ':' :: cs) := by
  refine groups?_stop limit fun body hbody => ?_
  cases first with
  | true =>
    cases hbody
    exact ends_colon _
  | false =>
    cases hbody
    exact ends_colon _

/-! ## The gap -/

theorem takeWhile_zeros (parts : List Nat) :
    parts.takeWhile (· == 0) = List.replicate (leadingZeros parts) 0 := by
  refine List.eq_replicate_iff.mpr ⟨rfl, fun p hp => ?_⟩
  exact beq_iff_eq.mp (List.all_eq_true.mp List.all_takeWhile p hp)

/-- The longest run of zeros stands where it is said to be. -/
theorem exists_longestZeros {start : Nat} {parts : List Nat}
    (h : 0 < (longestZeros start parts).2) :
    ∃ front back, parts = front ++ List.replicate (longestZeros start parts).2 0 ++ back ∧
      (longestZeros start parts).1 = start + front.length := by
  induction parts generalizing start with
  | nil => cases h
  | cons p ps ih =>
    rw [longestZeros] at h ⊢
    split
    -- the run at the front, unless a later one is longer
    · refine ⟨[], (p :: ps).dropWhile (· == 0), ?_, rfl⟩
      rw [List.nil_append, ← takeWhile_zeros, List.takeWhile_append_dropWhile]
    · next hlater =>
      rw [if_neg hlater] at h
      obtain ⟨front, back, hps, hstart⟩ := ih h
      refine ⟨p :: front, back, ?_, ?_⟩
      · rw [List.cons_append, List.cons_append, ← hps]
      · rw [hstart, List.length_cons]
        omega

/-- A run of zeros is left out, or all groups are written. -/
theorem compressedText_cases (parts : List Nat) :
    (∃ front zeros back, parts = front ++ List.replicate zeros 0 ++ back ∧ 1 < zeros ∧
      (compressedText parts).toList =
        (groupsText front).toList ++ ':' :: ':' :: (groupsText back).toList) ∨
    compressedText parts = groupsText parts := by
  rw [compressedText]
  split
  · next hrun =>
    obtain ⟨front, back, hsplit, hstart⟩ := exists_longestZeros (Nat.lt_of_succ_lt hrun)
    rw [Nat.zero_add] at hstart
    generalize longestZeros 0 parts = run at *
    obtain ⟨position, zeros⟩ := run
    obtain rfl : position = front.length := hstart
    refine .inl ⟨front, zeros, back, hsplit, hrun, ?_⟩
    have htake : parts.take front.length = front := by
      rw [hsplit, List.append_assoc, List.take_left]
    have hdrop : parts.drop (front.length + zeros) = back := by
      have hlen : front.length + zeros = (front ++ List.replicate zeros 0).length := by
        rw [List.length_append, List.length_replicate]
      rw [hsplit, hlen, List.drop_left]
    rw [htake, hdrop, String.toList_append, String.toList_append, List.append_assoc]
    rfl
  · exact .inr rfl

/-- An address with a gap: the groups in front of it, those behind it, and
    zeros between them. -/
theorem v6?_of_gap {cs rest tail : List Char} {front back : List Nat} {dotted : Bool}
    (hfront : groups? 8 true cs = (front, false, ':' :: ':' :: rest)) (hlen : front.length ≠ 8)
    (hback : groups? (7 - front.length) true rest = (back, dotted, tail)) :
    v6? cs = some (ofGroups
      (front ++ List.replicate (8 - front.length - back.length) 0 ++ back), tail) := by
  rw [v6?, hfront]
  simp only [if_neg hlen, Bool.false_eq_true, if_false, char?, if_true, Option.bind_eq_bind,
    Option.bind_some, hback]
  rfl

/-- Eight groups are read back, with zeros where some are left out. -/
theorem v6?_compressedText {parts : List Nat} (hlen : parts.length = 8)
    (hparts : ∀ p ∈ parts, p < 65536) {rest : List Char} (hrest : Closes rest) :
    v6? ((compressedText parts).toList ++ rest) = some (ofGroups parts, rest) := by
  rcases compressedText_cases parts with ⟨front, zeros, back, hsplit, hzeros, htext⟩ | htext
  · have hcount : front.length + zeros + back.length = 8 := by
      rw [← hlen, hsplit, List.length_append, List.length_append, List.length_replicate]
    have hfront : ∀ p ∈ front, p < 65536 := fun p hp => hparts p (by simp [hsplit, hp])
    have hback : ∀ p ∈ back, p < 65536 := fun p hp => hparts p (by simp [hsplit, hp])
    -- the groups in front end at the gap, and those behind it at the end
    have hreadFront := groups?_groupsText hfront (8 - front.length)
      (ends_colon (':' :: ((groupsText back).toList ++ rest))) fun first => groups?_gap _ first _
    have hreadBack := groups?_groupsText hback (zeros - 1) hrest.1
      fun first => groups?_closes _ first hrest
    have hlimit : front.length + (8 - front.length) = 8 := by omega
    have hbehind : back.length + (zeros - 1) = 7 - front.length := by omega
    have hfill : 8 - front.length - back.length = zeros := by omega
    rw [hlimit] at hreadFront
    rw [hbehind] at hreadBack
    rw [htext, List.append_assoc, List.cons_append, List.cons_append,
      v6?_of_gap hreadFront (by omega) hreadBack, hfill, ← hsplit]
  · have hread := groups?_groupsText hparts 0 hrest.1 fun first => groups?_closes 0 first hrest
    rw [hlen] at hread
    rw [htext, v6?, hread]
    exact if_pos hlen

/-- The groups of a number, most significant first, make up the number. -/
theorem foldl_groups (k n : Nat) :
    ((List.range k).map fun i => n / Nat.pow 65536 (k - 1 - i) % 65536).foldl
      (fun acc p => 65536 * acc + p) 0 = n % Nat.pow 65536 k := by
  induction k generalizing n with
  | zero => exact (Nat.mod_one n).symm
  | succ k ih =>
    -- all groups but the last are those of what is above it
    have habove : ((List.range k).map fun i => n / Nat.pow 65536 (k + 1 - 1 - i) % 65536) =
        (List.range k).map fun i => n / 65536 / Nat.pow 65536 (k - 1 - i) % 65536 := by
      refine List.map_congr_left fun i hi => ?_
      have hexponent : k + 1 - 1 - i = k - 1 - i + 1 := by
        have := List.mem_range.mp hi
        omega
      have hpow : Nat.pow 65536 (k - 1 - i + 1) = 65536 * Nat.pow 65536 (k - 1 - i) := Nat.pow_succ'
      rw [hexponent, hpow, Nat.div_div_eq_div_mul]
    have hlast : n / Nat.pow 65536 (k + 1 - 1 - k) % 65536 = n % 65536 := by
      rw [Nat.add_sub_cancel, Nat.sub_self]
      exact congrArg (· % 65536) (Nat.div_one n)
    have hpow : Nat.pow 65536 (k + 1) = 65536 * Nat.pow 65536 k := Nat.pow_succ'
    rw [List.range_succ, List.map_append, List.foldl_append, habove, ih, List.map_singleton,
      List.foldl_cons, List.foldl_nil, hlast, hpow, Nat.mod_mul, Nat.add_comm]

theorem ofGroups_groups (bits : BitVec 128) : ofGroups (groups bits) = bits := by
  have hnumber : (groups bits).foldl (fun acc p => 65536 * acc + p) 0 = bits.toNat :=
    (foldl_groups 8 bits.toNat).trans (Nat.mod_eq_of_lt bits.isLt)
  rw [ofGroups, hnumber, BitVec.ofNat_toNat, BitVec.setWidth_eq]

theorem length_groups (bits : BitVec 128) : (groups bits).length = 8 := rfl

theorem lt_of_mem_groups {bits : BitVec 128} {p : Nat} (h : p ∈ groups bits) : p < 65536 := by
  obtain ⟨i, -, rfl⟩ := List.mem_map.mp h
  exact Nat.mod_lt _ (by decide)

/-! ## Wrapped addresses -/

/-- A decimal address behind five groups of zeros and one of ones is read as
    the last two groups. -/
theorem v6?_wrapped (bits : BitVec 32) {rest : List Char}
    (hrest : Stops (fun c => (digit? c).isSome) rest) :
    v6? (("::ffff:" ++ octetText bits).toList ++ rest) =
      some (ofGroups [0, 0, 0, 0, 0, 65535, bits.toNat / 65536, bits.toNat % 65536], rest) := by
  have hdotted : groups? 6 false (':' :: ((octetText bits).toList ++ rest)) =
      ([bits.toNat / 65536, bits.toNat % 65536], true, rest) :=
    groups?_decimal (by decide) rfl (v4?_octetText bits hrest)
  have hgroup :
      groups? 7 true ('f' :: 'f' :: 'f' :: 'f' :: ':' :: ((octetText bits).toList ++ rest)) =
        ([65535, bits.toNat / 65536, bits.toNat % 65536], true, rest) := by
    have hbody :
        body? true ('f' :: 'f' :: 'f' :: 'f' :: ':' :: ((octetText bits).toList ++ rest)) =
          some (Nat.toDigits 16 65535 ++ ':' :: ((octetText bits).toList ++ rest)) := rfl
    rw [groups?_group (by decide) hbody (ends_colon _), hdotted]
  have htext : ("::ffff:" ++ octetText bits).toList ++ rest =
      ':' :: ':' :: 'f' :: 'f' :: 'f' :: 'f' :: ':' :: ((octetText bits).toList ++ rest) := by
    rw [String.toList_append]
    rfl
  rw [htext, v6?_of_gap (groups?_gap 8 true _) (by decide) hgroup]
  rfl

theorem ofGroups_wrapped {bits : BitVec 128} (h : isWrapped bits = true) :
    ofGroups [0, 0, 0, 0, 0, 65535, (BitVec.ofNat 32 bits.toNat).toNat / 65536,
      (BitVec.ofNat 32 bits.toNat).toNat % 65536] = bits := by
  have hlt := bits.isLt
  have hhigh : bits.toNat / 4294967296 = 65535 := beq_iff_eq.mp h
  apply BitVec.eq_of_toNat_eq
  simp only [ofGroups, List.foldl_cons, List.foldl_nil, BitVec.toNat_ofNat]
  omega

/-- A 128-bit address is read back, whatever follows it that closes it. -/
theorem v6?_text_append (bits : BitVec 128) {rest : List Char} (hrest : Closes rest) :
    v6? ((text (.v6 bits)).toList ++ rest) = some (bits, rest) := by
  rw [text]
  split
  · next hwrapped => rw [v6?_wrapped _ (stops_digit? hrest.1.1), ofGroups_wrapped hwrapped]
  · rw [v6?_compressedText (length_groups bits) (fun p => lt_of_mem_groups) hrest, ofGroups_groups]

theorem v6?_text (bits : BitVec 128) : v6? (text (.v6 bits)).toList = some (bits, []) := by
  have hread := v6?_text_append bits closes_nil
  rwa [List.append_nil] at hread

/-! ## The characters of an address -/

theorem mem_groupsText {ps : List Nat} {c : Char} (h : c ∈ (groupsText ps).toList) :
    c = ':' ∨ ∃ d, d < 16 ∧ c = Nat.digitChar d := by
  cases ps with
  | nil => exact absurd h List.not_mem_nil
  | cons p ps =>
    rw [groupsText_cons, List.mem_append] at h
    rcases h with h | h
    · exact .inr (exists_digit_of_mem_toDigits (by decide) h)
    · obtain ⟨q, -, hq⟩ := List.mem_flatMap.mp h
      rcases List.mem_cons.mp hq with hcolon | hdigit
      · exact .inl hcolon
      · exact .inr (exists_digit_of_mem_toDigits (by decide) hdigit)

theorem mem_compressedText {parts : List Nat} {c : Char}
    (h : c ∈ (compressedText parts).toList) : c = ':' ∨ ∃ d, d < 16 ∧ c = Nat.digitChar d := by
  rcases compressedText_cases parts with ⟨front, zeros, back, -, -, htext⟩ | htext
  · rw [htext, List.mem_append, List.mem_cons, List.mem_cons] at h
    rcases h with h | h | h | h
    · exact mem_groupsText h
    · exact .inl h
    · exact .inl h
    · exact mem_groupsText h
  · rw [htext] at h
    exact mem_groupsText h

theorem mem_octetText {bits : BitVec 32} {c : Char} (h : c ∈ (octetText bits).toList) :
    c = '.' ∨ ∃ d, d < 16 ∧ c = Nat.digitChar d := by
  have hdigit : ∀ n, c ∈ Nat.toDigits 10 n → ∃ d, d < 16 ∧ c = Nat.digitChar d := by
    intro n hn
    obtain ⟨d, hd, rfl⟩ := exists_digit_of_mem_toDigits (by decide) hn
    exact ⟨d, Nat.lt_trans hd (by decide), rfl⟩
  simp only [octetText_toList, List.mem_append, List.mem_cons] at h
  rcases h with h | h | h | h | h | h | h
  · exact .inr (hdigit _ h)
  · exact .inl h
  · exact .inr (hdigit _ h)
  · exact .inl h
  · exact .inr (hdigit _ h)
  · exact .inl h
  · exact .inr (hdigit _ h)

/-- The characters of an address: hexadecimal digits, colons and dots. -/
def alphabet : List Char := "0123456789abcdef:.".toList

theorem mem_alphabet_of_mem_text {ip : IpAddress} {c : Char} (h : c ∈ ip.text.toList) :
    c ∈ alphabet := by
  have hdigits : ∀ d < 16, Nat.digitChar d ∈ alphabet := by decide
  have hdot : '.' ∈ alphabet := by decide
  have hcolon : ':' ∈ alphabet := by decide
  have hdecimal : ∀ bits, c ∈ (octetText bits).toList → c ∈ alphabet := by
    intro bits hc
    rcases mem_octetText hc with rfl | ⟨d, hd, rfl⟩
    · exact hdot
    · exact hdigits d hd
  cases ip with
  | v4 bits => exact hdecimal bits h
  | v6 bits =>
    rw [text] at h
    split at h
    · rw [String.toList_append, List.mem_append] at h
      rcases h with h | h
      · have hfront : "::ffff:".toList.all alphabet.contains = true := by decide
        exact List.contains_iff_mem.mp (List.all_eq_true.mp hfront c h)
      · exact hdecimal _ h
    · rcases mem_compressedText h with rfl | ⟨d, hd, rfl⟩
      · exact hcolon
      · exact hdigits d hd

/-- A 128-bit address has a colon. -/
theorem colon_mem_text (bits : BitVec 128) : ':' ∈ (text (.v6 bits)).toList := by
  rw [text]
  split
  · rw [String.toList_append]
    exact List.mem_append_left _ (by decide)
  · rcases compressedText_cases (groups bits) with ⟨front, zeros, back, -, -, htext⟩ | htext
    · rw [htext]
      exact List.mem_append_right _ List.mem_cons_self
    · -- there are at least two groups
      match hgroups : groups bits, length_groups bits with
      | p :: q :: ps, _ =>
        rw [hgroups] at htext
        rw [htext, groupsText_cons]
        exact List.mem_append_right _
          (List.mem_flatMap.mpr ⟨q, List.mem_cons_self, List.mem_cons_self⟩)

/-- A 128-bit address is not read as a decimal one. -/
theorem v4?_text_v6 (bits : BitVec 128) : v4? (text (.v6 bits)).toList = none := by
  refine v4?_eq_none ?_
  rw [text]
  split
  · rw [String.toList_append]
    exact fun h => by cases h
  · have hdot : '.' ∉ (compressedText (groups bits)).toList := by
      intro hmem
      rcases mem_compressedText hmem with hcolon | ⟨d, hd, hdigit⟩
      · cases hcolon
      · have hall : ∀ d < 16, '.' ≠ Nat.digitChar d := by decide
        exact hall d hd hdigit
    have hnone := head?_dropWhile_ne hdot (stops_nil fun c => (digit? c).isSome) (by decide)
    rwa [List.append_nil] at hnone

/-- An address is read back from its text. -/
theorem ofText?_text (ip : IpAddress) : ofText? ip.text = some ip := by
  rw [ofText?]
  cases ip with
  | v4 bits =>
    have hread := v4?_octetText bits (stops_nil _)
    rw [List.append_nil] at hread
    rw [text, hread]
  | v6 bits => rw [v4?_text_v6, v6?_text]

end TernaryGossip.IpAddress
