import TernaryGossip.Gossip.Neighbor
import TernaryGossip.Proofs.Url.Authority

/-! # Neighbor URIs are read back from their text

    A neighbor URI that was read has a canonical host, and so it is read back
    from its text: a name has no colon and stands for itself, and an address
    with colons gets the brackets that it was read without. -/

namespace TernaryGossip

/-! ## The schemes of the transports -/

namespace TransportKind

theorem plain_scheme (kind : TransportKind) : Url.SchemeKind.of kind.scheme = .plain := by
  cases kind <;> decide

theorem printable_of_mem_scheme (kind : TransportKind) :
    ∀ c ∈ kind.scheme.toList, Url.printable c = true := by
  have hall : kind.scheme.toList.all Url.printable = true := by cases kind <;> decide
  exact List.all_eq_true.mp hall

theorem scheme?_scheme (kind : TransportKind) (rest : List Char) :
    Url.scheme? (kind.scheme.toList ++ ':' :: rest) = some (kind.scheme, rest) := by
  cases kind <;> rfl

end TransportKind

namespace NeighborUri

theorem kind?_scheme (kind : TransportKind) : kind? kind.scheme = some kind := by
  cases kind <;> rfl

theorem scheme_of_kind? {scheme : String} {kind : TransportKind} (h : kind? scheme = some kind) :
    scheme = kind.scheme := by
  rw [kind?] at h
  split at h
  · next hscheme =>
    cases h
    exact hscheme
  · split at h
    · next hscheme =>
      cases h
      exact hscheme
    · cases h

theorem isBlank_of_printable {c : Char} (h : Url.printable c = true) : Text.isBlank c = false := by
  rw [Url.printable, Bool.and_eq_true, decide_eq_true_eq, decide_eq_true_eq] at h
  refine Bool.eq_false_iff.mpr fun hblank => ?_
  simp only [Text.isBlank, Bool.or_eq_true, Bool.and_eq_true, decide_eq_true_eq,
    beq_iff_eq] at hblank
  omega

/-! ## Hosts without brackets -/

section host
variable {host : Url.Host} (h : host.Canonical)
include h

theorem hostText_ne_empty : hostText host ≠ "" := by
  cases h with
  | name hne hcs => exact fun hempty => hne (String.ofList_eq_empty_iff.mp hempty)
  | address bits =>
    intro hempty
    have hcolon := IpAddress.colon_mem_text bits
    rw [hostText] at hempty
    rw [hempty] at hcolon
    cases hcolon

/-- The text has the brackets of the URL. -/
theorem toList_text (kind : TransportKind) (port : UInt16) :
    (text ⟨kind, hostText host, port⟩).toList = Url.writtenUrl kind.scheme host port := by
  have hseparator : "://".toList = [':', '/', '/'] := rfl
  have hcolon : ":".toList = [':'] := rfl
  have hopen : "://[".toList = [':', '/', '/', '['] := rfl
  have hclose : "]:".toList = [']', ':'] := rfl
  cases h with
  | name hne hcs =>
    next cs =>
    -- a name has no colon, and so it gets no brackets
    have hnone : (String.ofList cs).toList.contains ':' = false := by
      refine Bool.eq_false_iff.mpr fun hmem => ?_
      rw [String.toList_ofList, List.contains_iff_mem] at hmem
      exact Url.Host.ne_of_isOpaque (hcs ':' hmem) (by decide) rfl
    simp only [text, hostText, hnone]
    simp [Url.writtenUrl, Url.Host.written, hseparator, hcolon]
  | address bits =>
    have hsome : (IpAddress.text (.v6 bits)).toList.contains ':' = true :=
      List.contains_iff_mem.mpr (IpAddress.colon_mem_text bits)
    simp only [text, hostText, hsome, if_true]
    simp [Url.writtenUrl, Url.Host.written, hopen, hclose]

/-- A URI with a canonical host is read back. -/
theorem parse_text (kind : TransportKind) (port : UInt16) :
    parse (text ⟨kind, hostText host, port⟩) = .ok ⟨kind, hostText host, port⟩ := by
  have htext := toList_text h kind port
  have htrim : Text.trim (text ⟨kind, hostText host, port⟩) = text ⟨kind, hostText host, port⟩ := by
    rw [Text.trim, Text.trimChars, Url.trimmed_eq_self, String.ofList_toList]
    intro c hc
    rw [htext] at hc
    exact isBlank_of_printable
      (Url.printable_of_mem_writtenUrl kind.printable_of_mem_scheme h hc)
  rw [parse, htrim, Url.parse?_writtenUrl kind.plain_scheme kind.printable_of_mem_scheme
    kind.scheme?_scheme h port htext]
  simp only [kind?_scheme]
  rfl

end host

/-! ## URIs that were read -/

/-- A URI is read from a URL of its own host and port. -/
theorem exists_url_of_parse {s : String} {u : NeighborUri} (h : parse s = .ok u) :
    ∃ url host, Url.parse? (Text.trim s) = some url ∧ Url.SchemeKind.of url.scheme = .plain ∧
      url.host = some host ∧ url.port = some u.port ∧ u.host = hostText host := by
  rw [parse] at h
  split at h
  · cases h
  · next url hurl =>
    split at h
    · cases h
    · next kind hkind =>
      have hplain : Url.SchemeKind.of url.scheme = .plain := by
        rw [scheme_of_kind? hkind]
        exact kind.plain_scheme
      split at h
      · cases h
      · next uri huri =>
        cases h
        rw [ofUrl?] at huri
        split at huri
        · cases huri
        · split at huri
          · next host port hhost hport =>
            cases huri
            exact ⟨url, host, hurl, hplain, hhost, hport, rfl⟩
          · cases huri

/-- A URI that was read has a port that the text spells and a canonical
    host. -/
theorem writesPort_of_parse {s : String} {u : NeighborUri} (h : parse s = .ok u) :
    Url.WritesPort (Url.significant (Text.trim s)) u.port ∧
      ∃ host : Url.Host, host.Canonical ∧ u.host = hostText host := by
  obtain ⟨url, host, hurl, hplain, hhost, hport, htext⟩ := exists_url_of_parse h
  have hsome : url.host ≠ none := by
    rw [hhost]
    exact Option.some_ne_none host
  have hread := Url.hasAuthority_of_parse? hurl hplain hsome
  obtain ⟨hne, text, rest, hwritten⟩ := hread.host host hhost
  rw [hplain] at hwritten
  exact ⟨hread.port u.port hport, host, Url.canonical_of_host? hwritten hne, htext⟩

/-! ## URIs of addresses -/

/-- The text of an address is a host. -/
theorem exists_host_of_address (ip : IpAddress) :
    ∃ host : Url.Host, host.Canonical ∧ ip.text = hostText host := by
  cases ip with
  | v4 bits =>
    -- under a plain scheme a decimal address is a name like any other
    have hopaque : ∀ c ∈ (IpAddress.octetText bits).toList, Url.Host.isOpaque c = true := by
      have hdigits : ∀ d < 16, Url.Host.isOpaque (Nat.digitChar d) = true := by decide
      intro c hc
      rcases IpAddress.mem_octetText hc with rfl | ⟨d, hd, rfl⟩
      · decide
      · exact hdigits d hd
    have hne : (IpAddress.octetText bits).toList ≠ [] := by
      rw [IpAddress.octetText_toList]
      exact List.append_ne_nil_of_right_ne_nil _ (List.cons_ne_nil _ _)
    exact ⟨_, .name hne hopaque, String.ofList_toList.symm⟩
  | v6 bits => exact ⟨_, .address bits, rfl⟩

/-- The URI of an address resolves to it in no flow and no scope, whatever
names are known. -/
theorem resolve_ofAddress (names : Resolver) (kind : TransportKind) (a : SocketAddress) :
    (ofAddress kind a).resolve names = .ok ⟨.ofIp a.ip, a.port⟩ := by
  have hread : IpAddress.ofText? (ofAddress kind a).host = some a.ip := IpAddress.ofText?_text a.ip
  rw [resolve, hread]
  rfl

theorem resolve_ofAddress_eq_self (names : Resolver) (kind : TransportKind) (a : SocketAddress) :
    (ofAddress kind a).resolve names = .ok a ↔ a.host.flow = 0 ∧ a.host.scope = 0 := by
  rw [resolve_ofAddress, ← ScopedAddress.ofIp_ip_iff]
  obtain ⟨host, port⟩ := a
  simp [SocketAddress.ip]

/-- Neighbor URIs are read back from their text.  A URI that was read spells
    its port and has a host, and reading its text yields it again.  So does
    the text of the URI that a neighbor gets from its socket address, and the
    host and the port of it are that address, in no flow and no scope. -/
theorem uris_read_back :
    (∀ s u, parse s = .ok u →
      (∃ url, Url.parse? (Text.trim s) = some url ∧ url.port = some u.port) ∧
        Url.WritesPort (Url.significant (Text.trim s)) u.port ∧
        u.host ≠ "" ∧ parse u.text = .ok u) ∧
    ∀ (r : Roster) (kind : TransportKind) (a : SocketAddress),
      let u := (r.makeDiscovered kind a).1.uri
      parse u.text = .ok u ∧ u.kind = kind ∧ IpAddress.ofText? u.host = some a.ip ∧
        u.port = a.port ∧ ∀ names, u.resolve names = .ok ⟨.ofIp a.ip, a.port⟩ ∧
          (u.resolve names = .ok a ↔ a.host.flow = 0 ∧ a.host.scope = 0) := by
  constructor
  · intro s u hparse
    obtain ⟨url, -, hurl, -, -, hport, -⟩ := exists_url_of_parse hparse
    obtain ⟨hwritten, host, hcanonical, hhost⟩ := writesPort_of_parse hparse
    obtain ⟨kind, name, port⟩ := u
    obtain rfl : name = hostText host := hhost
    exact ⟨⟨url, hurl, hport⟩, hwritten, hostText_ne_empty hcanonical,
      parse_text hcanonical kind port⟩
  · intro r kind a
    obtain ⟨host, hcanonical, hhost⟩ := exists_host_of_address a.ip
    have hread : parse (text ⟨kind, a.ip.text, a.port⟩) = .ok ⟨kind, a.ip.text, a.port⟩ := by
      rw [hhost]
      exact parse_text hcanonical kind a.port
    exact ⟨hread, rfl, IpAddress.ofText?_text a.ip, rfl,
      fun names => ⟨resolve_ofAddress names kind a, resolve_ofAddress_eq_self names kind a⟩⟩

/-- Capitals, blanks, leading zeros and a trailing slash are gone in the text
    of the URI. -/
theorem uris_read_back_capitals :
    parse " UDP://[0::FFFF:7F00:1]:014600/ " = .ok ⟨.datagram, "::ffff:127.0.0.1", 14600⟩ ∧
      parse (text ⟨.datagram, "::ffff:127.0.0.1", 14600⟩) =
        .ok ⟨.datagram, "::ffff:127.0.0.1", 14600⟩ := by
  have hparse : parse " UDP://[0::FFFF:7F00:1]:014600/ " =
      .ok ⟨.datagram, "::ffff:127.0.0.1", 14600⟩ := by decide +kernel
  exact ⟨hparse, (uris_read_back.1 _ _ hparse).2.2.2⟩

end NeighborUri

end TernaryGossip
