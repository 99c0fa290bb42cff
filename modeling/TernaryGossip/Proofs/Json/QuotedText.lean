import TernaryGossip.Json.Parser

/-! # Texts between quotes

    A text is written between quotes with each of its characters on its own:
    most stand for themselves, quotes, backslashes and a few controls have a
    letter, and the other controls have a number.  Reading goes over the
    same parts: whatever follows a character, its part is taken first and
    stands for that character.  So every text is read from its quoted form,
    and the first quote that is not escaped is the last one. -/

namespace TernaryGossip.Json

/-! ## One character -/

/-- A part of a text stands for a character, whatever parts follow. -/
def Stands (u : StringPart) (c : Char) : Prop := ∀ us, chars? (u :: us) = (chars? us).map (c :: ·)

theorem stands_char (c : Char) : Stands (.char c) c := fun us => by
  rw [chars?]
  cases chars? us <;> rfl

/-- A number below the surrogates stands for the character that has it. -/
theorem stands_code {c : Char} (h : c.toNat < 0xd800) : Stands (.code c.toNat) c := fun us => by
  rw [chars?.eq_def]
  show (if 0xd800 ≤ c.toNat ∧ c.toNat ≤ 0xdbff then _ else _) = _
  rw [if_neg (by omega), if_neg (by omega), Char.ofNat_toNat]
  cases chars? us <;> rfl

/-- The part `u` is taken from the front of a text. -/
def Takes (cs : List Char) (u : StringPart) : Prop :=
  ∀ rest, units? (cs ++ rest) = (units? rest).map fun r => (u :: r.1, r.2)

theorem takes_letter {l c : Char} (h : escaped? l = some c) : Takes ['\\', l] (.char c) := by
  -- the letter of a number is none of these
  have hu : l ≠ 'u' := by
    rintro rfl
    have hnone : escaped? 'u' = none := by decide
    rw [hnone] at h
    cases h
  intro rest
  show units? ('\\' :: l :: rest) = _
  rw [units?.eq_4 l rest fun _ _ _ _ _ hl _ => hu hl, h]
  cases units? rest <;> rfl

theorem takes_plain {c : Char} (hquote : c ≠ '"') (hslash : c ≠ '\\') (hcontrol : 0x20 ≤ c.toNat) :
    Takes [c] (.char c) := by
  intro rest
  show units? (c :: rest) = _
  rw [units?]
  · rw [if_neg (by simp only [hslash, or_false]; omega)]
    cases units? rest <;> rfl
  · exact hquote
  · exact fun _ _ _ _ _ h _ => hslash h
  · exact fun _ _ h _ => hslash h

/-- A control has four digits, and they are read as its number. -/
theorem hex4_control {n : Nat} (h : n < 0x20) :
    ∃ a b c d, hex4 n = [a, b, c, d] ∧ hex4? [a, b, c, d] = some n := by
  have hall : (List.range 0x20).all (fun n =>
      (hex4 n).length == 4 && hex4? (hex4 n) == some n) = true := by decide
  have hn := List.all_eq_true.mp hall n (List.mem_range.mpr h)
  rw [Bool.and_eq_true, beq_iff_eq, beq_iff_eq] at hn
  match hdigits : hex4 n, hn.1 with
  | [a, b, c, d], _ => exact ⟨a, b, c, d, rfl, by rw [← hdigits, hn.2]⟩

theorem takes_control {c : Char} (h : c.toNat < 0x20) :
    Takes ('\\' :: 'u' :: hex4 c.toNat) (.code c.toNat) := by
  obtain ⟨x, y, z, w, hdigits, hread⟩ := hex4_control h
  intro rest
  rw [hdigits]
  show units? ('\\' :: 'u' :: x :: y :: z :: w :: rest) = _
  rw [units?, hread]
  cases units? rest <;> rfl

/-- The characters that are escaped by a letter. -/
def lettered : List Char := ['"', '\\', '\x08', '\x0c', '\n', '\r', '\t']

theorem exists_letter {c : Char} (h : c ∈ lettered) :
    ∃ l, escape c = ['\\', l] ∧ escaped? l = some c := by
  have hall : lettered.all (fun c => (escape c)[1]?.any fun l =>
      escape c == ['\\', l] && escaped? l == some c) = true := by decide
  have hc := List.all_eq_true.mp hall c h
  cases hl : (escape c)[1]? with
  | none => rw [hl] at hc; cases hc
  | some l =>
    rw [hl, Option.any_some, Bool.and_eq_true, beq_iff_eq, beq_iff_eq] at hc
    exact ⟨l, hc⟩

/-- The written form of a character is taken as a part that stands for it. -/
theorem exists_part (c : Char) : ∃ u, Takes (escape c) u ∧ Stands u c := by
  by_cases hletter : c ∈ lettered
  · obtain ⟨l, hescape, hread⟩ := exists_letter hletter
    exact ⟨.char c, hescape ▸ takes_letter hread, stands_char c⟩
  · -- none of the letters is tried, so it has a number or stands for itself
    simp only [lettered, List.mem_cons, List.not_mem_nil, or_false, not_or] at hletter
    obtain ⟨hquote, hslash, hback, hform, hline, hreturn, htab⟩ := hletter
    rw [escape, if_neg hquote, if_neg hslash, if_neg hback, if_neg hform, if_neg hline,
      if_neg hreturn, if_neg htab]
    split
    · next hcontrol => exact ⟨_, takes_control hcontrol, stands_code (by omega)⟩
    · next hcontrol =>
      exact ⟨_, takes_plain hquote hslash (Nat.not_lt.mp hcontrol), stands_char c⟩

/-! ## A text -/

/-- The parts of a text end at its closing quote and stand for its characters. -/
theorem units?_escaped (cs rest : List Char) :
    ∃ us, units? (cs.flatMap escape ++ '"' :: rest) = some (us, rest) ∧ chars? us = some cs := by
  induction cs with
  | nil => exact ⟨[], rfl, rfl⟩
  | cons c cs ih =>
    obtain ⟨u, htakes, hstands⟩ := exists_part c
    obtain ⟨us, hunits, hchars⟩ := ih
    refine ⟨u :: us, ?_, ?_⟩
    · -- the part of the first character is taken, whatever was written behind it
      rw [List.flatMap_cons, List.append_assoc, htakes, hunits]
      rfl
    · rw [hstands, hchars]
      rfl

theorem string?_escaped (s : String) (rest : List Char) :
    string? (s.toList.flatMap escape ++ '"' :: rest) = some (some s, rest) := by
  obtain ⟨us, hunits, hchars⟩ := units?_escaped s.toList rest
  rw [string?, hunits]
  show some ((chars? us).map String.ofList, rest) = _
  rw [hchars, Option.map_some, String.ofList_toList]

theorem toList_quote (s : String) :
    (quote s).toList = '"' :: (s.toList.flatMap escape ++ ['"']) := by
  simp only [quote, String.toList_append, String.toList_ofList]
  rfl

/-- Every text is read from its quoted form. -/
theorem parse?_quote (s : String) : parse? (quote s) = some (.text s) := by
  -- a text has no values inside, so one step of the reader is enough
  have hvalue : ∀ fuel, value? (fuel + 1) (quote s).toList = some (.text s, []) := by
    intro fuel
    rw [toList_quote, value?]
    show (string? (s.toList.flatMap escape ++ ['"'])).map (fun r => (Json.string r.1, r.2)) = _
    rw [string?_escaped]
    rfl
  rw [parse?]
  simp only [hvalue]
  rfl

theorem compact_text (s : String) : (text s).compact = quote s := by
  rw [text, compact]
  rfl

end TernaryGossip.Json
