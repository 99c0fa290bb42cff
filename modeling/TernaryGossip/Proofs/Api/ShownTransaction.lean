import TernaryGossip.Proofs.Tangle.LatestMilestone
import TernaryGossip.Proofs.Tangle.Referrers
import TernaryGossip.Proofs.Transaction.Fields
import TernaryGossip.Proofs.Transaction.Vouched
import TernaryGossip.Proofs.Trit.TryteText

/-! # The transaction that is shown

    Asked for a transaction, the API shows its trytes and, beside them, what
    stands in its fields.  These come in two ways from the same trits: the
    trytes at once, and a field by way of the hash that packs it.  Both give
    the same characters, so a client can cut every field out of the trytes.

    Over one fault-free provider that is written by storing alone, the
    answer depends on nothing but the name and the transactions that were
    stored.  A name that is no text of a hash is the client's fault; the
    null hash and a hash under which nothing was stored are not found; for
    any other the first transaction stored under it is shown, with those
    that refer to it.  The store never fails, and the trytes can always be
    written. -/

namespace TernaryGossip

/-! ## Fields as text -/

/-- A payload has a whole number of trytes. -/
theorem Transaction.write_trits (t : Transaction) :
    Tryte.write t.trits = .ok (String.ofList (Tryte.chars t.trits)) := by
  rw [Tryte.write, if_pos (by rw [t.length_trits])]

namespace Transaction.Legible

variable {t : Transaction} (h : t.Legible)
include h

/-- The hash in a field is written as the characters of the field, with nines
    behind them if it is shorter than a hash. -/
theorem toTrytes_fieldHash {f : Layout.Field} {k : Nat} (hoffset : 3 ∣ f.offset)
    (hsize : f.size = 3 * k) (hk : k ≤ 81) (hstop : f.stop ≤ 8019) :
    (t.fieldHash f).toTrytes =
      String.ofList (Tryte.field f (Tryte.chars t.trits) ++ List.replicate (81 - k) '9') := by
  have hlen : (f.read t.trits).length = 3 * k := by
    unfold Layout.Field.stop at hstop
    rw [Layout.Field.length_read, t.length_trits]
    omega
  rw [fieldHash, Hash.toTrytes_ofTrits (Layout.Field.balanced_read h.balanced f) hlen hk,
    Tryte.chars_read hoffset ⟨k, hsize⟩]

theorem toTrytes_fieldHash_full {f : Layout.Field} (hoffset : 3 ∣ f.offset) (hsize : f.size = 243)
    (hstop : f.stop ≤ 8019) :
    (t.fieldHash f).toTrytes = String.ofList (Tryte.field f (Tryte.chars t.trits)) := by
  rw [h.toTrytes_fieldHash (k := 81) hoffset hsize (Nat.le_refl 81) hstop, Nat.sub_self,
    List.replicate_zero, List.append_nil]

/-- The number in a field is that of the characters of the field. -/
theorem readChars_field {f : Layout.Field} (hoffset : 3 ∣ f.offset) (hsize : 3 ∣ f.size) :
    Tryte.readChars (Tryte.field f (Tryte.chars t.trits)) = .ok (f.read t.trits) := by
  have hlen : (f.read t.trits).length % 3 = 0 := by
    rw [Layout.Field.length_read, t.length_trits]
    omega
  rw [← Tryte.chars_read hoffset hsize]
  exact Tryte.readChars_chars (Layout.Field.balanced_read h.balanced f) hlen

theorem read_chars_trits : Tryte.read (String.ofList (Tryte.chars t.trits)) = .ok t.trits := by
  rw [Tryte.read, String.toList_ofList]
  exact Tryte.readChars_chars h.balanced (by rw [t.length_trits])

end Transaction.Legible

/-! ## Those that refer to a hash -/

open Transaction (firstOf storeAll)

/-- Where the tables mirror what was stored, the approvers that are found are
    the hashes whose first transaction has the hash as trunk or branch. -/
theorem Tables.Mirrors.approvers {T : Tables} {ts : List Transaction} (hT : T.Mirrors ts)
    {s : Store} (hs : s.Keeps T) (t : Transaction) :
    ∃ found, t.approvers s = .ok found ∧ found.Pairwise (fun a b => compare a b = .lt) ∧
      ∀ g, g ∈ found ↔ ∃ u, firstOf ts g = some u ∧ (u.trunk = t.hash ∨ u.branch = t.hash) := by
  have hreference := hT.reference .approvers (by decide)
  have hjoined : ∀ key, (T.table .approvers).contains key = true → Key.IsReference key := by
    intro key hkey
    obtain ⟨g, u, -, h, -, rfl⟩ := (hreference key).mp hkey
    exact ⟨h, g, rfl⟩
  refine ⟨_, hs.referrers .approvers t.hash, pairwise_referrers hjoined t.hash, fun g => ?_⟩
  rw [mem_referrers_iff hjoined, hreference]
  constructor
  · rintro ⟨g', u, hfirst, h, hh, hkey⟩
    obtain ⟨rfl, rfl⟩ := Key.ofReference_inj.mp hkey
    refine ⟨u, hfirst, ?_⟩
    simpa [Transaction.references, eq_comm] using hh
  · rintro ⟨u, hfirst, hrefers⟩
    refine ⟨g, u, hfirst, t.hash, ?_, rfl⟩
    simpa [Transaction.references, eq_comm] using hrefers

/-! ## What is shown -/

namespace Api

/-- An answer shows a transaction: its trytes, and in the other members what
    they say. -/
structure Shows (answer : Json) (t : Transaction) (cs : List Char) : Prop where
  /-- All trytes are shown. -/
  trytes : answer.member? "trytes" = some (.text (String.ofList cs))
  length : cs.length = 2673
  /-- The trits of the transaction can be read from them. -/
  trits : Tryte.read (String.ofList cs) = .ok t.trits
  hash : answer.member? "hash" = some (.text t.hash.toTrytes)
  address : answer.member? "address" =
    some (.text (String.ofList (Tryte.field Layout.address cs)))
  bundle : answer.member? "bundle" = some (.text (String.ofList (Tryte.field Layout.bundle cs)))
  trunk : answer.member? "trunk" = some (.text (String.ofList (Tryte.field Layout.trunk cs)))
  branch : answer.member? "branch" = some (.text (String.ofList (Tryte.field Layout.branch cs)))
  /-- A tag is shown as long as a hash. -/
  tag : answer.member? "tag" =
    some (.text (String.ofList (Tryte.field Layout.tag cs ++ List.replicate 54 '9')))
  /-- The amount is that of the trytes that can be used. -/
  value : ∃ ts, Tryte.readChars (Tryte.field Layout.usableValue cs) = .ok ts ∧
    answer.member? "value" = some (.integer (Balanced.value ts))

theorem shows_transactionJson {t : Transaction} (h : t.Legible) (approvers : List Hash) :
    Shows (transactionJson t (String.ofList (Tryte.chars t.trits)) approvers) t
      (Tryte.chars t.trits) where
  trytes := by simp [transactionJson, Json.record, Json.member?]
  length := by rw [Tryte.length_chars, t.length_trits]
  trits := h.read_chars_trits
  hash := by simp [transactionJson, Json.record, Json.member?]
  address := by
    rw [← h.toTrytes_fieldHash_full (by decide) rfl (by decide)]
    simp [transactionJson, Json.record, Json.member?, Transaction.address]
  bundle := by
    rw [← h.toTrytes_fieldHash_full (by decide) rfl (by decide)]
    simp [transactionJson, Json.record, Json.member?, Transaction.bundle]
  trunk := by
    rw [← h.toTrytes_fieldHash_full (by decide) rfl (by decide)]
    simp [transactionJson, Json.record, Json.member?, Transaction.trunk]
  branch := by
    rw [← h.toTrytes_fieldHash_full (by decide) rfl (by decide)]
    simp [transactionJson, Json.record, Json.member?, Transaction.branch]
  tag := by
    have htag := h.toTrytes_fieldHash (f := Layout.tag) (k := 27) (by decide) rfl (by decide)
      (by decide)
    simp [transactionJson, Json.record, Json.member?, Transaction.tag, htag]
  value := by
    refine ⟨_, h.readChars_field (f := Layout.usableValue) (by decide) (by decide), ?_⟩
    simp [transactionJson, Json.record, Json.member?, Transaction.value, Transaction.fieldNumber]

/-! ## The answers -/

/-- The transactions that refer to a hash are shown with it, each once. -/
def ShowsApprovers (answer : Json) (ts : List Transaction) (h : Hash) : Prop :=
  ∃ found : List Hash,
    answer.member? "approvers" = some (.array (found.map fun g => .text g.toTrytes)) ∧
    found.Pairwise (fun a b => compare a b = .lt) ∧
    ∀ g, g ∈ found ↔ ∃ u, firstOf ts g = some u ∧ (u.trunk = h ∨ u.branch = h)

theorem transactionNamed_malformed (s : Store) {text : String} (h : ¬ Hash.IsText text) :
    (transactionNamed s text).status = 400 := by
  cases hread : Hash.ofTrytes text with
  | error e =>
    rw [transactionNamed, hread]
    rfl
  | ok g => exact absurd ((Hash.ofTrytes_ok_iff text).mp ⟨g, hread⟩) h

section answers
variable {s : Store} {T : Tables} (hs : s.Keeps T) {ts : List Transaction} (hT : T.Mirrors ts)
  {text : String} {h : Hash} (hread : Hash.ofTrytes text = .ok h)
include hs hT hread

theorem transactionNamed_missing (hmissing : h.isNull = true ∨ firstOf ts h = none) :
    transactionNamed s text = .failure 404 ("Transaction not found: " ++ text) := by
  have hload : Transaction.load s h = .ok (.placeholder h) := by
    refine hs.load_ok_iff.mpr (.inl ⟨rfl, hmissing.imp_right fun hnone => ?_⟩)
    rw [hT.stored_iff, hnone]
    exact Bool.false_ne_true
  simp only [transactionNamed, hread, transactionOf, hload, Transaction.isFilled_placeholder,
    Hash.toTrytes_of_ofTrytes hread]
  rfl

theorem transactionNamed_stored (hnull : h.isNull = false) {t : Transaction}
    (hfirst : firstOf ts h = some t) (hmade : t.Made) :
    ∃ answer, transactionNamed s text = .ok answer ∧
      Shows answer t (Tryte.chars t.trits) ∧ ShowsApprovers answer ts h := by
  have hloads := hT.loads hfirst hmade
  obtain ⟨found, hfound, hpairwise, hmem⟩ := hT.approvers hs t
  rw [hloads.hash] at hmem
  refine ⟨_, ?_, shows_transactionJson hmade.legible found, found, ?_, hpairwise, hmem⟩
  · simp only [transactionNamed, hread, transactionOf, hs.load_of_loads hnull hloads,
      Transaction.isFilled_of_loads hloads, if_true, hfound, t.write_trits]
  · simp [transactionJson, Json.record, Json.member?]

end answers

/-- A name is malformed, or of nothing stored, or of something stored. -/
theorem name_cases (ts : List Transaction) (text : String) :
    ¬ Hash.IsText text ∨
      (∃ h, Hash.ofTrytes text = .ok h ∧ (h.isNull = true ∨ firstOf ts h = none)) ∨
      ∃ h t, Hash.ofTrytes text = .ok h ∧ h.isNull = false ∧ firstOf ts h = some t := by
  by_cases htext : Hash.IsText text
  · obtain ⟨h, hread⟩ := (Hash.ofTrytes_ok_iff text).mpr htext
    cases hnull : h.isNull with
    | true => exact .inr (.inl ⟨h, hread, .inl hnull⟩)
    | false =>
      cases hfirst : firstOf ts h with
      | none => exact .inr (.inl ⟨h, hread, .inr hfirst⟩)
      | some t => exact .inr (.inr ⟨h, t, hread, hnull, hfirst⟩)
  · exact .inl htext

/-- Of three conditions with different statuses, one of which holds, a status
    tells its own. -/
theorem status_iff {P Q R : Prop} {status p q r : Nat} (hcases : P ∨ Q ∨ R) (hP : P → status = p)
    (hQ : Q → status = q) (hR : R → status = r) (hpq : p ≠ q) (hpr : p ≠ r) : status = p ↔ P := by
  constructor
  · intro hstatus
    rcases hcases with hcase | hcase | hcase
    · exact hcase
    · exact absurd (hstatus.symm.trans (hQ hcase)) hpq
    · exact absurd (hstatus.symm.trans (hR hcase)) hpr
  · exact hP

/-- Over one fault-free provider that was empty, after any transactions that
    were decoded or built have been stored, whoever asks for a transaction
    by any name is told one of three things: that the name is not the text
    of a hash, that nothing is stored under the hash (nothing ever is under
    the null hash), or what the first transaction stored under it says,
    field by field as in its trytes, and which of the stored transactions
    refer to it. -/
theorem shows_stored_transactions {s : Store} (hs : s.Keeps .empty) {ts : List Transaction}
    (hmade : ∀ t ∈ ts, t.Made) (text : String) :
    let answer := transactionNamed (storeAll s ts) text
    (∀ (n : Node) version time segment, n.store = storeAll s ts →
      Route.decodeSegment? segment = some text →
      (read n version time (.transaction segment)).1 = answer) ∧
    (Hash.IsText text ↔ ∃ h, Hash.ofTrytes text = .ok h ∧ h.toTrytes = text) ∧
    (answer.status = 400 ↔ ¬ Hash.IsText text) ∧
    (answer.status = 404 ↔
      ∃ h, Hash.ofTrytes text = .ok h ∧ (h.isNull = true ∨ firstOf ts h = none)) ∧
    (answer.status = 200 ↔
      ∃ h t, Hash.ofTrytes text = .ok h ∧ h.isNull = false ∧ firstOf ts h = some t) ∧
    (answer.status = 400 ∨ answer.status = 404 ∨ answer.status = 200) ∧
    ∀ h t, Hash.ofTrytes text = .ok h → h.isNull = false → firstOf ts h = some t →
      ∃ shown cs, answer = .ok shown ∧ shown.member? "hash" = some (.text text) ∧
        Shows shown t cs ∧ ShowsApprovers shown ts h := by
  intro answer
  obtain ⟨T, hkeeps, hT⟩ := Tables.Mirrors.empty.storeAll ts hs
  rw [List.nil_append] at hT
  have hmalformed : ¬ Hash.IsText text → answer.status = 400 :=
    transactionNamed_malformed (storeAll s ts)
  have hmissing : (∃ h, Hash.ofTrytes text = .ok h ∧ (h.isNull = true ∨ firstOf ts h = none)) →
      answer.status = 404 := by
    rintro ⟨h, hread, hnone⟩
    exact congrArg Response.status (transactionNamed_missing hkeeps hT hread hnone)
  have hshown : ∀ h t, Hash.ofTrytes text = .ok h → h.isNull = false → firstOf ts h = some t →
      ∃ shown, answer = .ok shown ∧ Shows shown t (Tryte.chars t.trits) ∧
        ShowsApprovers shown ts h := fun h t hread hnull hfirst =>
    transactionNamed_stored hkeeps hT hread hnull hfirst
      (hmade t (List.mem_of_find?_eq_some hfirst))
  have hstored : (∃ h t, Hash.ofTrytes text = .ok h ∧ h.isNull = false ∧ firstOf ts h = some t) →
      answer.status = 200 := by
    rintro ⟨h, t, hread, hnull, hfirst⟩
    obtain ⟨shown, hanswer, -⟩ := hshown h t hread hnull hfirst
    exact congrArg Response.status hanswer
  have hcases := name_cases ts text
  refine ⟨?_, ?_, ?_, ?_, ?_, hcases.imp hmalformed (Or.imp hmissing hstored), ?_⟩
  · intro n version time segment hn hsegment
    simp only [read, transactionAt, hsegment, hn]
    rfl
  · rw [← Hash.ofTrytes_ok_iff]
    exact exists_congr fun h =>
      ⟨fun hread => ⟨hread, Hash.toTrytes_of_ofTrytes hread⟩, fun hread => hread.1⟩
  · exact status_iff hcases hmalformed hmissing hstored (by decide) (by decide)
  · exact status_iff (or_left_comm.mp hcases) hmissing hmalformed hstored (by decide) (by decide)
  · exact status_iff (or_rotate.mp (or_rotate.mp hcases)) hstored hmalformed hmissing (by decide)
      (by decide)
  · intro h t hread hnull hfirst
    obtain ⟨shown, hanswer, hshows, happrovers⟩ := hshown h t hread hnull hfirst
    have htext : t.hash.toTrytes = text := by
      rw [Transaction.hash_of_firstOf hfirst, Hash.toTrytes_of_ofTrytes hread]
    exact ⟨shown, _, hanswer, by rw [hshows.hash, htext], hshows, happrovers⟩

/-- The payload of zeros is shown under its hash, if that is not null. -/
theorem shows_stored_transactions_zeros :
    let s : Store := ⟨[Provider.memory]⟩
    ∃ t, Transaction.decode Transaction.zeros = .ok t ∧ s.Keeps .empty ∧ (∀ u ∈ [t], u.Made) ∧
      (transactionNamed (storeAll s [t]) "9").status = 400 ∧
      (transactionNamed (storeAll s [t]) Hash.null.toTrytes).status = 404 ∧
      (transactionNamed (storeAll s [t]) t.hash.toTrytes).status =
        if t.hash.isNull then 404 else 200 := by
  intro s
  obtain ⟨t, hdecode, -, -⟩ := Transaction.decode_zeros
  have hkeeps : s.Keeps .empty := Store.keeps_fresh "memory"
  have hmade : ∀ u ∈ [t], u.Made := by
    rintro u hu
    obtain rfl := List.mem_singleton.mp hu
    exact .decoded hdecode
  have hread : ∀ {h : Hash}, h.Proper → Hash.ofTrytes h.toTrytes = .ok h := by
    intro h hproper
    obtain ⟨cs, hcs, -, -, hread⟩ := hproper.text
    rwa [hcs]
  have hnull : Hash.ofTrytes Hash.null.toTrytes = .ok Hash.null := hread ⟨[], by decide, rfl⟩
  have hown : Hash.ofTrytes t.hash.toTrytes = .ok t.hash := by
    rw [(Transaction.decode_ok_iff.mp hdecode).2]
    exact hread ⟨_, Hash.balanced_squeezeTrits _, rfl⟩
  have hfirst : firstOf [t] t.hash = some t := by simp [firstOf]
  obtain ⟨-, -, hmalformed, -⟩ := shows_stored_transactions hkeeps hmade "9"
  obtain ⟨-, -, -, hmissing, -⟩ := shows_stored_transactions hkeeps hmade Hash.null.toTrytes
  obtain ⟨-, -, -, hnone, hstored, -⟩ := shows_stored_transactions hkeeps hmade t.hash.toTrytes
  refine ⟨t, hdecode, hkeeps, hmade, hmalformed.mpr fun htext => ?_,
    hmissing.mpr ⟨_, hnull, .inl (Hash.isNull_iff.mpr rfl)⟩, ?_⟩
  · exact absurd htext.1 (by decide)
  · cases hisnull : t.hash.isNull with
    | true => exact hnone.mpr ⟨_, hown, .inl hisnull⟩
    | false => exact hstored.mpr ⟨_, t, hown, hisnull, hfirst⟩

end Api

end TernaryGossip
