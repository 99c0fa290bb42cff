import Mathlib.Data.List.TakeWhile
import TernaryGossip.Proofs.Net.AddressText
import TernaryGossip.Url.Basic

/-! # The authority of a plain URL

    Under a scheme that is not special a host is a name whose characters are
    all opaque, or an address with colons in brackets (`Host.Canonical`).
    Controls and what is not ASCII have been encoded, and what would end a
    host is refused.  So a host and a port are read back from their text
    (`withAuthority?_written`). -/

namespace TernaryGossip.Url

/-! ## Printable characters -/

/-- A character that is neither a blank, nor a control, nor outside of
    ASCII. -/
def printable (c : Char) : Bool := 0x20 < c.toNat && c.toNat < 0x7f

theorem trimmed_eq_self {p : Char → Bool} {cs : List Char} (h : ∀ c ∈ cs, p c = false) :
    ((cs.dropWhile p).reverse.dropWhile p).reverse = cs := by
  have hfront : cs.dropWhile p = cs :=
    dropWhile_of_stops fun c hc => h c (List.mem_of_mem_head? hc)
  have hback : cs.reverse.dropWhile p = cs.reverse :=
    dropWhile_of_stops fun c hc => h c (List.mem_reverse.mp (List.mem_of_mem_head? hc))
  rw [hfront, hback, List.reverse_reverse]

/-- A text of printable characters is read as a whole. -/
theorem significant_of_printable {s : String} (h : ∀ c ∈ s.toList, printable c = true) :
    significant s = s.toList := by
  have hrange : ∀ c ∈ s.toList, 0x20 < c.toNat := fun c hc =>
    of_decide_eq_true (Bool.and_eq_true_iff.mp (h c hc)).1
  have htrim := trimmed_eq_self (p := fun c => c.toNat ≤ 0x20) fun c hc =>
    decide_eq_false (Nat.not_le.mpr (hrange c hc))
  rw [significant, htrim, List.filter_eq_self]
  intro c hc
  have hlarge := hrange c hc
  refine decide_eq_true ⟨?_, ?_, ?_⟩ <;> rintro rfl <;> exact absurd hlarge (by decide)

/-! ## Opaque characters -/

namespace Host

/-- A character that stands for itself in the host of a plain scheme. -/
def isOpaque (c : Char) : Bool := !forbiddenVerbatim c && !Percent.control c

theorem isOpaque_iff {c : Char} :
    isOpaque c = true ↔ forbiddenVerbatim c = false ∧ Percent.control c = false := by
  rw [isOpaque, Bool.and_eq_true, Bool.not_eq_true', Bool.not_eq_true']

/-- An opaque character is none that ends or divides an authority. -/
theorem ne_of_isOpaque {c d : Char} (h : isOpaque c = true) (hd : isOpaque d = false) : c ≠ d := by
  rintro rfl
  rw [h] at hd
  cases hd

theorem printable_of_isOpaque {c : Char} (h : isOpaque c = true) : printable c = true := by
  have hspace : c ≠ ' ' := ne_of_isOpaque h (by decide)
  have hcontrol := (isOpaque_iff.mp h).2
  have hrange : c.toNat ≠ 0x20 := fun hc => hspace (Char.toNat_inj.mp hc)
  simp only [Percent.control, Bool.or_eq_false_iff, decide_eq_false_iff_not] at hcontrol
  simp only [printable, Bool.and_eq_true, decide_eq_true_eq]
  omega

theorem endsAuthority_of_isOpaque {c : Char} (h : isOpaque c = true) :
    endsAuthority .plain c = false := by
  have hslash : c ≠ '/' := ne_of_isOpaque h (by decide)
  have hquestion : c ≠ '?' := ne_of_isOpaque h (by decide)
  have hsharp : c ≠ '#' := ne_of_isOpaque h (by decide)
  simp [endsAuthority, SchemeKind.isSpecial, hslash, hquestion, hsharp]

/-- Encoding leaves nothing but opaque characters of a host that has none of
    the forbidden ones. -/
theorem isOpaque_of_mem_encode {cs : List Char} (hcs : cs.any forbiddenVerbatim = false)
    {c : Char} (h : c ∈ Percent.encode Percent.control cs) : isOpaque c = true := by
  have hdigit : ∀ n < 16, isOpaque (Percent.hexDigit n) = true := by decide
  obtain ⟨d, hd, hc⟩ := List.mem_flatMap.mp h
  rw [Percent.encodeChar] at hc
  split at hc
  · obtain ⟨b, -, hb⟩ := List.mem_flatMap.mp hc
    have hbyte : b.toNat < 256 := b.toNat_lt
    simp only [Percent.encodeByte, List.mem_cons, List.not_mem_nil, or_false] at hb
    rcases hb with rfl | rfl | rfl
    · decide
    · exact hdigit _ (by omega)
    · exact hdigit _ (by omega)
  · next hkept =>
    rw [List.mem_singleton] at hc
    subst hc
    exact isOpaque_iff.mpr
      ⟨Bool.eq_false_iff.mpr fun hforbidden => List.any_eq_false.mp hcs c hd hforbidden,
        Bool.eq_false_iff.mpr hkept⟩

theorem encode_of_isOpaque {cs : List Char} (h : ∀ c ∈ cs, isOpaque c = true) :
    Percent.encode Percent.control cs = cs := by
  induction cs with
  | nil => rfl
  | cons c cs ih =>
    obtain ⟨hc, hcs⟩ := List.forall_mem_cons.mp h
    have hchar : Percent.encodeChar Percent.control c = [c] := by
      rw [Percent.encodeChar, (isOpaque_iff.mp hc).2]
      rfl
    rw [Percent.encode, List.flatMap_cons, hchar, ← Percent.encode, ih hcs]
    rfl

/-! ## Hosts -/

/-- What the host of a plain scheme can be: a name of opaque characters, or
    an address with colons. -/
inductive Canonical : Host → Prop
  | name {cs : List Char} (hne : cs ≠ []) (hcs : ∀ c ∈ cs, isOpaque c = true) :
      Canonical (.domain (String.ofList cs))
  | address (bits : BitVec 128) : Canonical (.address (.v6 bits))

theorem Canonical.ne_empty {host : Host} (h : Canonical host) : host ≠ .domain "" := by
  rintro rfl
  generalize hname : "" = name at h
  cases h with
  | name hne hcs => exact hne (String.ofList_inj.mp (hname.symm.trans String.ofList_nil.symm))

/-- A host as it is written, in brackets if it has colons. -/
def written : Host → List Char
  | .domain name => name.toList
  | .address ip => '[' :: (ip.text.toList ++ [']'])

theorem exists_of_bracketed? {cs : List Char} {host : Host} (h : bracketed? cs = some host) :
    ∃ bits, host = .address (.v6 bits) := by
  unfold bracketed? at h
  repeat' split at h
  · exact ⟨_, (Option.some.inj h).symm⟩
  all_goals cases h

/-- The host of a plain scheme is canonical unless it is empty. -/
theorem canonical_of_verbatim? {cs : List Char} {host : Host} (h : verbatim? cs = some host)
    (hne : host ≠ .domain "") : Canonical host := by
  rw [verbatim?] at h
  split at h
  · obtain ⟨bits, rfl⟩ := exists_of_bracketed? h
    exact .address bits
  · split at h
    · cases h
    · next hallowed =>
      cases h
      refine .name (fun hnil => hne ?_) fun c =>
        isOpaque_of_mem_encode (Bool.eq_false_iff.mpr hallowed)
      rw [hnil]

/-- A canonical host is read back. -/
theorem verbatim?_written {host : Host} (h : Canonical host) :
    verbatim? host.written = some host := by
  cases h with
  | name hne hcs =>
    next cs =>
    have hbracket : cs.head? ≠ some '[' := fun hhead =>
      ne_of_isOpaque (hcs _ (List.mem_of_mem_head? hhead)) (by decide) rfl
    have hallowed : cs.any forbiddenVerbatim = false :=
      List.any_eq_false.mpr fun c hc => Bool.eq_false_iff.mp (isOpaque_iff.mp (hcs c hc)).1
    rw [written, String.toList_ofList, verbatim?, if_neg hbracket, hallowed, encode_of_isOpaque hcs]
    rfl
  | address bits =>
    rw [written, verbatim?, List.head?_cons, if_pos rfl]
    simp only [bracketed?, List.getLast?_concat, List.dropLast_concat, IpAddress.v6?_text]

/-- Of the characters of an address only the colon is not opaque. -/
theorem isOpaque_or_colon {c : Char} (h : c ∈ IpAddress.alphabet) :
    isOpaque c = true ∨ c = ':' := by
  have hall : IpAddress.alphabet.all (fun c => isOpaque c || c == ':') = true := by decide
  have hc := List.all_eq_true.mp hall c h
  rwa [Bool.or_eq_true, beq_iff_eq] at hc

/-- The characters of a written host: opaque ones, brackets and colons. -/
theorem mem_written {host : Host} (h : Canonical host) {c : Char} (hc : c ∈ host.written) :
    isOpaque c = true ∨ c ∈ ['[', ']', ':'] := by
  cases h with
  | name hne hcs =>
    rw [written, String.toList_ofList] at hc
    exact .inl (hcs c hc)
  | address bits =>
    simp only [written, List.mem_cons, List.mem_append, List.not_mem_nil, or_false] at hc
    rcases hc with rfl | hc | rfl
    · exact .inr (by decide)
    · rcases isOpaque_or_colon (IpAddress.mem_alphabet_of_mem_text hc) with hopaque | rfl
      · exact .inl hopaque
      · exact .inr (by decide)
    · exact .inr (by decide)

end Host

/-! ## Host and port in an authority -/

/-- A colon in brackets does not end the host. -/
theorem hostChars_append {k : SchemeKind} {inside : Bool} {cs rest : List Char}
    (h : ∀ c ∈ cs, endsAuthority k c = false ∧ c ≠ '[' ∧ c ≠ ']' ∧ (c = ':' → inside = true)) :
    hostChars k inside (cs ++ rest) = cs ++ hostChars k inside rest := by
  induction cs with
  | nil => rfl
  | cons c cs ih =>
    obtain ⟨⟨hends, hopen, hclose, hcolon⟩, hcs⟩ := List.forall_mem_cons.mp h
    have hgoes : ¬((c = ':' ∧ !inside) ∨ endsAuthority k c) := by
      rintro (⟨hc, hout⟩ | hc)
      · rw [hcolon hc] at hout
        cases hout
      · rw [hends] at hc
        cases hc
    rw [List.cons_append, hostChars, if_neg hgoes, if_neg hopen, if_neg hclose, ih hcs]
    rfl

theorem hostChars_written {host : Host} (h : host.Canonical) (rest : List Char) :
    hostChars .plain false (host.written ++ ':' :: rest) = host.written := by
  have hend : hostChars .plain false (':' :: rest) = [] := by
    rw [hostChars, if_pos (.inl ⟨rfl, rfl⟩)]
  cases h with
  | name hne hcs =>
    rw [Host.written, String.toList_ofList, hostChars_append, hend, List.append_nil]
    intro c hc
    have hopaque := hcs c hc
    exact ⟨Host.endsAuthority_of_isOpaque hopaque, Host.ne_of_isOpaque hopaque (by decide),
      Host.ne_of_isOpaque hopaque (by decide),
      fun hcolon => absurd hcolon (Host.ne_of_isOpaque hopaque (by decide))⟩
  | address bits =>
    -- in brackets no colon ends the host, up to the closing one
    have hinside :
        hostChars .plain true ((IpAddress.text (.v6 bits)).toList ++ ']' :: ':' :: rest) =
          (IpAddress.text (.v6 bits)).toList ++ hostChars .plain true (']' :: ':' :: rest) :=
      hostChars_append fun c hc => by
        rcases Host.isOpaque_or_colon (IpAddress.mem_alphabet_of_mem_text hc) with hopaque | rfl
        · exact ⟨Host.endsAuthority_of_isOpaque hopaque, Host.ne_of_isOpaque hopaque (by decide),
            Host.ne_of_isOpaque hopaque (by decide), fun _ => rfl⟩
        · decide
    have hclose : hostChars .plain true (']' :: ':' :: rest) = [']'] := by
      rw [hostChars, if_neg (by decide), if_neg (by decide), if_pos rfl, hend]
    rw [Host.written, List.cons_append, List.append_assoc, hostChars, if_neg (by decide),
      if_pos rfl]
    show '[' :: hostChars .plain true (_ ++ ']' :: ':' :: rest) = _
    rw [hinside, hclose]

theorem host?_written {host : Host} (h : host.Canonical) (rest : List Char) :
    host? .plain (host.written ++ ':' :: rest) = some (host, ':' :: rest) := by
  rw [host?, hostChars_written h, Host.verbatim?_written h, List.drop_left]
  rfl

/-- Without an at sign there is no user. -/
theorem user?_of_not_mem (k : SchemeKind) {cs : List Char} (h : '@' ∉ cs) :
    user? k cs = some ("", none, cs) := by
  have hnone : (cs.takeWhile fun c => !endsAuthority k c).contains '@' = false :=
    Bool.eq_false_iff.mpr fun hmem =>
      h (List.takeWhile_subset _ (List.contains_iff_mem.mp hmem))
  rw [user?, hnone]
  rfl

theorem not_mem_written {host : Host} (h : host.Canonical) {cs : List Char} (hcs : '@' ∉ cs) :
    '@' ∉ host.written ++ ':' :: cs := by
  simp only [List.mem_append, List.mem_cons, not_or]
  refine ⟨fun hmem => ?_, by decide, hcs⟩
  rcases Host.mem_written h hmem with hopaque | hpunctuation
  · exact absurd hopaque (by decide)
  · exact absurd hpunctuation (by decide)

/-- The decimal digits of a port. -/
theorem toList_toString (port : UInt16) :
    (toString port.toNat).toList = Nat.toDigits 10 port.toNat := by
  rw [Nat.toString_eq_repr, Nat.toList_repr]

theorem isDigit_of_mem_toString {port : UInt16} {c : Char} (h : c ∈ (toString port.toNat).toList) :
    c.isDigit = true := by
  rw [toList_toString] at h
  exact Nat.isDigit_of_mem_toDigits (by decide) (by decide) h

/-- A port is read back from its digits. -/
theorem port?_toString (port : UInt16) :
    port? (toString port.toNat).toList = some (some port, []) := by
  have hdigits :
      (toString port.toNat).toList.takeWhile Char.isDigit = (toString port.toNat).toList :=
    List.takeWhile_eq_self_iff.mpr fun c => isDigit_of_mem_toString
  have hvalue : (toString port.toNat).toList.foldl (fun acc c => 10 * acc + (c.toNat - 48)) 0 =
      port.toNat := by
    rw [toList_toString]
    exact Nat.ofDigitChars_ten_toDigits
  have hne : (toString port.toNat).toList.isEmpty = false := by
    rw [toList_toString]
    exact List.isEmpty_eq_false_iff.mpr Nat.toDigits_ne_nil
  have hlt : port.toNat < 65536 := port.toNat_lt
  rw [port?, hdigits, hvalue, List.drop_length, if_neg (by omega), hne, UInt16.ofNat_toNat]
  rfl

theorem defaultPort?_of_plain {scheme : String} (h : SchemeKind.of scheme = .plain) :
    defaultPort? scheme = none := by
  simp only [SchemeKind.of] at h
  split at h
  · cases h
  · split at h
    · cases h
    · next hspecial =>
      simp only [List.contains_eq_mem, List.mem_cons, List.not_mem_nil, or_false, decide_eq_true_eq,
        not_or] at hspecial
      obtain ⟨hhttp, hhttps, hws, hwss, hftp⟩ := hspecial
      simp [defaultPort?, hhttp, hhttps, hws, hwss, hftp]

/-- A host and a port are read back. -/
theorem withAuthority?_written {scheme : String} (hscheme : SchemeKind.of scheme = .plain)
    {host : Host} (h : host.Canonical) (port : UInt16) :
    withAuthority? scheme (host.written ++ ':' :: (toString port.toNat).toList) =
      some { scheme, username := "", password := none, host := some host, port := some port
             path := "", query := none, fragment := none } := by
  have hport := port?_toString port
  have hat : '@' ∉ (toString port.toNat).toList := fun hmem =>
    absurd (isDigit_of_mem_toString hmem) (by decide)
  have huser := user?_of_not_mem .plain (not_mem_written h hat)
  -- from here on only what was read from the digits matters
  generalize (toString port.toNat).toList = digits at *
  have hsome : (some port : Option UInt16) ≠ none := fun hc => by cases hc
  simp only [withAuthority?, hscheme, huser, host?_written h, h.ne_empty, hport,
    defaultPort?_of_plain hscheme, Option.bind_eq_bind, Option.bind_some, false_and, if_false,
    if_neg hsome]
  rfl

/-- The text of a URL with nothing but a scheme, a host and a port. -/
def writtenUrl (scheme : String) (host : Host) (port : UInt16) : List Char :=
  scheme.toList ++ ':' :: '/' :: '/' :: (host.written ++ ':' :: (toString port.toNat).toList)

theorem printable_of_mem_writtenUrl {scheme : String}
    (hscheme : ∀ c ∈ scheme.toList, printable c = true) {host : Host} (h : host.Canonical)
    {port : UInt16} {c : Char} (hc : c ∈ writtenUrl scheme host port) : printable c = true := by
  have hpunctuation : ['[', ']', ':'].all printable = true := by decide
  have hdigit : c.isDigit = true → printable c = true := by
    rw [Char.isDigit_iff_toNat, printable, Bool.and_eq_true, decide_eq_true_eq, decide_eq_true_eq]
    rintro ⟨hlow, hhigh⟩
    exact ⟨Nat.lt_of_lt_of_le (by decide) hlow, Nat.lt_of_le_of_lt hhigh (by decide)⟩
  simp only [writtenUrl, List.mem_append, List.mem_cons] at hc
  rcases hc with hc | rfl | rfl | rfl | hc | rfl | hc
  · exact hscheme c hc
  · decide
  · decide
  · decide
  · rcases Host.mem_written h hc with hopaque | hc
    · exact Host.printable_of_isOpaque hopaque
    · exact List.all_eq_true.mp hpunctuation c hc
  · decide
  · exact hdigit (isDigit_of_mem_toString hc)

/-- A URL of a host and a port is read back. -/
theorem parse?_writtenUrl {scheme : String} (hscheme : SchemeKind.of scheme = .plain)
    (hprintable : ∀ c ∈ scheme.toList, printable c = true)
    (hread : ∀ rest, scheme? (scheme.toList ++ ':' :: rest) = some (scheme, rest))
    {host : Host} (h : host.Canonical) (port : UInt16) {s : String}
    (hs : s.toList = writtenUrl scheme host port) :
    parse? s =
      some { scheme, username := "", password := none, host := some host, port := some port
             path := "", query := none, fragment := none } := by
  have hall : significant s = s.toList := significant_of_printable fun c hc =>
    printable_of_mem_writtenUrl hprintable h (hs ▸ hc)
  rw [parse?, hall, hs, writtenUrl, hread]
  simp only [Option.bind_eq_bind, Option.bind_some, hscheme]
  exact withAuthority?_written hscheme h port

/-! ## What a URL was read from -/

/-- A text has a port: a colon, and then the decimal digits of the port as far
    as there are any. -/
def WritesPort (cs : List Char) (port : UInt16) : Prop :=
  ∃ digits rest, ':' :: (digits ++ rest) <:+ cs ∧ digits ≠ [] ∧ (∀ c ∈ digits, c.isDigit) ∧
    Stops Char.isDigit rest ∧ Nat.ofDigitChars 10 digits 0 = port.toNat

theorem WritesPort.mono {cs ds : List Char} {port : UInt16} (h : WritesPort cs port)
    (hsuffix : cs <:+ ds) : WritesPort ds port := by
  obtain ⟨digits, rest, htail, hport⟩ := h
  exact ⟨digits, rest, htail.trans hsuffix, hport⟩

theorem writesPort_of_port? {tail rest : List Char} {port : UInt16}
    (h : port? tail = some (some port, rest)) : WritesPort (':' :: tail) port := by
  rw [port?, drop_length_takeWhile] at h
  split at h
  · cases h
  · next hsmall =>
    split at h
    · obtain ⟨hport, -⟩ := Prod.mk.inj (Option.some.inj h)
      split at hport
      · cases hport
      · next hne =>
        cases hport
        refine ⟨tail.takeWhile Char.isDigit, tail.dropWhile Char.isDigit, ?_, ?_, ?_, ?_, ?_⟩
        · exact ⟨[], congrArg (List.cons ':') List.takeWhile_append_dropWhile⟩
        · exact fun hnil => hne (List.isEmpty_iff.mpr hnil)
        · exact fun c hc => List.all_eq_true.mp List.all_takeWhile c hc
        · exact stops_dropWhile _ _
        · exact (UInt16.toNat_ofNat_of_lt (Nat.lt_succ_of_le (Nat.not_lt.mp hsmall))).symm
    · cases h

theorem user?_suffix {k : SchemeKind} {cs rest : List Char} {name : String}
    {secret : Option String} (h : user? k cs = some (name, secret, rest)) : rest <:+ cs := by
  rw [user?] at h
  split at h
  · dsimp only at h
    split at h
    · cases h
    · cases h
      exact List.drop_suffix _ _
  · cases h
    exact List.suffix_rfl

theorem host?_suffix {k : SchemeKind} {cs rest : List Char} {host : Host}
    (h : host? k cs = some (host, rest)) : rest <:+ cs := by
  rw [host?] at h
  split at h
  · split at h
    · cases h
    · obtain ⟨_, -, hrest⟩ := Option.map_eq_some_iff.mp h
      cases hrest
      exact List.drop_suffix _ _
  · obtain ⟨_, -, hrest⟩ := Option.map_eq_some_iff.mp h
    cases hrest
    exact List.drop_suffix _ _

theorem scheme?_suffix {cs rest : List Char} {scheme : String}
    (h : scheme? cs = some (scheme, rest)) : rest <:+ cs := by
  unfold scheme? at h
  split at h
  · cases h
  · split at h
    · split at h
      · next htail =>
        cases h
        exact (List.suffix_cons _ _).trans (htail ▸ List.dropWhile_suffix _)
      · cases h
    · cases h

/-- The host and the port of a URL stand in the authority it was read
    from. -/
structure HasAuthority (url : Url) (cs : List Char) : Prop where
  host : ∀ host, url.host = some host →
    host ≠ .domain "" ∧ ∃ text rest, host? (.of url.scheme) text = some (host, rest)
  port : ∀ port, url.port = some port → WritesPort cs port

theorem hasAuthority_of_withAuthority? {scheme : String} {cs : List Char} {url : Url}
    (h : withAuthority? scheme cs = some url) : url.scheme = scheme ∧ HasAuthority url cs := by
  simp only [withAuthority?, Option.bind_eq_bind, Option.bind_eq_some_iff] at h
  obtain ⟨⟨username, password, afterUser⟩, huser, ⟨host, afterHost⟩, hhost, h⟩ := h
  have hsuffix : afterHost <:+ cs := (host?_suffix hhost).trans (user?_suffix huser)
  have hread : ∀ h, (if host = .domain "" then none else some host) = some h →
      h ≠ .domain "" ∧ ∃ text rest, host? (.of scheme) text = some (h, rest) := by
    intro h hsome
    split at hsome
    · cases hsome
    · next hne =>
      cases hsome
      exact ⟨hne, afterUser, afterHost, hhost⟩
  split at h
  · cases h
  · dsimp only at h
    split at h
    -- a colon follows the host, and the port follows it
    · obtain ⟨⟨port, afterPort⟩, hport, h⟩ := Option.bind_eq_some_iff.mp h
      cases h
      refine ⟨rfl, hread, fun p hp => ?_⟩
      change (if port = defaultPort? scheme then none else port) = some p at hp
      split at hp
      · cases hp
      · subst hp
        exact (writesPort_of_port? hport).mono hsuffix
    · cases h
      refine ⟨rfl, hread, fun p hp => ?_⟩
      change (if none = defaultPort? scheme then none else none) = some p at hp
      split at hp <;> cases hp

theorem scheme_of_file? {cs : List Char} {url : Url} (h : file? cs = some url) :
    url.scheme = "file" := by
  rw [file?] at h
  dsimp only at h
  split at h
  · split at h
    · cases h
      rfl
    · obtain ⟨_, -, hurl⟩ := Option.map_eq_some_iff.mp h
      cases hurl
      rfl
  · cases h
    rfl

/-- A URL of a plain scheme with a host has an authority. -/
theorem hasAuthority_of_parse? {s : String} {url : Url} (h : parse? s = some url)
    (hplain : SchemeKind.of url.scheme = .plain) (hhost : url.host ≠ none) :
    HasAuthority url (significant s) := by
  simp only [parse?, Option.bind_eq_bind, Option.bind_eq_some_iff] at h
  obtain ⟨⟨scheme, rest⟩, hscheme, h⟩ := h
  have hsuffix := scheme?_suffix hscheme
  dsimp only at h
  split at h
  -- neither the scheme of files nor another special one is plain
  · rw [scheme_of_file? h] at hplain
    cases hplain
  · next hkind =>
    rw [(hasAuthority_of_withAuthority? h).1, hkind] at hplain
    cases hplain
  · split at h
    · obtain ⟨-, hread⟩ := hasAuthority_of_withAuthority? h
      refine ⟨hread.host, fun port hport => (hread.port port hport).mono ?_⟩
      exact ((List.suffix_cons _ _).trans (List.suffix_cons _ _)).trans hsuffix
    · cases h
      exact absurd rfl hhost

theorem canonical_of_host? {cs rest : List Char} {host : Host}
    (h : host? .plain cs = some (host, rest)) (hne : host ≠ .domain "") : host.Canonical := by
  obtain ⟨_, hread, hhost⟩ := Option.map_eq_some_iff.mp h
  cases hhost
  exact Host.canonical_of_verbatim? hread hne

end TernaryGossip.Url
