import TernaryGossip.Proofs.Tangle.Storing
import TernaryGossip.Proofs.Transaction.Legible

/-! # Loading transactions

    Where every look-up is answered from some tables, as it is over one
    fault-free provider, there are three cases.  The null hash and a hash
    without a payload are loaded as placeholders; a hash whose payload and
    facts can be read is loaded as the transaction they describe; and
    anything else is an error.

    `Tables.Loads` says what is stored under a hash, without asking whether
    it is null: a payload may be stored under the null hash, but is never
    loaded. -/

namespace TernaryGossip

theorem Hash.isNull_iff {h : Hash} : h.isNull = true ↔ h = Hash.null := by
  constructor
  · intro hzero
    apply Hash.eq_of_bytes_eq
    have hall : h.bytes = List.replicate 49 0 := by
      refine List.eq_replicate_iff.mpr ⟨h.length_bytes, fun x hx => ?_⟩
      exact eq_of_beq (List.all_eq_true.mp hzero x hx)
    rw [hall]
    rfl
  · rintro rfl
    decide

theorem Key.ofFact_inj {g h : Hash} {a b : UInt8} : ofFact g a = ofFact h b ↔ g = h ∧ a = b := by
  constructor
  · intro heq
    have hlen : g.bytes.length = h.bytes.length := by rw [g.length_bytes, h.length_bytes]
    obtain ⟨hbytes, htag⟩ := List.append_inj heq hlen
    exact ⟨Hash.eq_of_bytes_eq hbytes, List.singleton_inj.mp htag⟩
  · rintro ⟨rfl, rfl⟩
    rfl

/-! ## What is stored under a hash -/

namespace Tables

/-- The stored facts about a hash, as far as they have one of these tags. -/
def found (T : Tables) (h : Hash) (readers : List (UInt8 × Reader Fact)) :
    List (Reader Fact × Bytes) :=
  readers.filterMap fun r =>
    ((T.table .transactionMetadata).get? (Key.ofFact h r.1)).map fun b => (r.2, b)

/-- The metadata of a stored payload once the stored facts are learned. -/
def facts (T : Tables) (h : Hash) : Except StorageError Metadata :=
  Transaction.learnAll (.fresh .filled) (T.found h Fact.readers)

/-- This transaction is stored under a hash, with everything that is known
    about it. -/
structure Loads (T : Tables) (h : Hash) (t : Transaction) : Prop where
  payload : (T.table .transaction).get? (Key.ofHash h) = some t.payload
  hash : t.hash = h
  legible : t.Legible
  facts : T.facts h = .ok t.facts

namespace Loads

variable {T : Tables} {h : Hash} {t u : Transaction}

theorem stored (ht : T.Loads h t) : T.Stored h := by
  rw [Stored, OrderedMap.contains, ht.payload]
  rfl

theorem unique (ht : T.Loads h t) (hu : T.Loads h u) : t = u := by
  have hpayload : t.payload = u.payload := Option.some.inj (ht.payload.symm.trans hu.payload)
  have hfacts : t.facts = u.facts := Except.ok.inj (ht.facts.symm.trans hu.facts)
  have htrits := ht.legible.trits_eq hu.legible hpayload
  have hhash := ht.hash.trans hu.hash.symm
  cases t
  cases u
  simp_all

end Loads

/-- What is stored under a hash depends on its payload and its facts alone. -/
theorem loads_congr {T T' : Tables} {h : Hash} {t : Transaction} (halike : T.Alike T')
    (hfacts : ∀ tag, (T'.table .transactionMetadata).get? (Key.ofFact h tag) =
      (T.table .transactionMetadata).get? (Key.ofFact h tag)) : T'.Loads h t ↔ T.Loads h t := by
  have hpayload := halike .transaction (by decide)
  have hsame : T'.facts h = T.facts h := by simp only [facts, found, hfacts]
  constructor
  · intro ht
    exact ⟨by rw [← hpayload]; exact ht.payload, ht.hash, ht.legible, by rw [← hsame]; exact ht.facts⟩
  · intro ht
    exact ⟨by rw [hpayload]; exact ht.payload, ht.hash, ht.legible, by rw [hsame]; exact ht.facts⟩

/-- When no fact about a hash is stored, none is learned. -/
theorem facts_of_empty {T : Tables} (h : Hash)
    (hempty : ∀ tag, (T.table .transactionMetadata).get? (Key.ofFact h tag) = none) :
    T.facts h = .ok (.fresh .filled) := by
  have hnone : T.found h Fact.readers = [] := by
    rw [found, List.filterMap_eq_nil_iff]
    intro r _
    rw [hempty, Option.map_none]
  rw [facts, hnone, Transaction.learnAll]

end Tables

namespace Transaction

/-- Facts say nothing about whether the payload is known. -/
theorem knowledge_of_learnAll {found : List (Reader Fact × Bytes)} {m m' : Metadata}
    (h : learnAll m found = .ok m') : m'.knowledge = m.knowledge := by
  induction found generalizing m with
  | nil =>
    rw [learnAll] at h
    rw [Except.ok.inj h]
  | cons e found ih =>
    obtain ⟨reader, b⟩ := e
    rw [learnAll] at h
    cases hread : Reader.run reader b with
    | error e =>
      rw [hread] at h
      cases h
    | ok fact =>
      rw [hread] at h
      rw [ih h]
      cases fact <;> rfl

theorem isFilled_of_loads {T : Tables} {h : Hash} {t : Transaction} (ht : T.Loads h t) :
    t.isFilled = true := by
  rw [isFilled, knowledge_of_learnAll ht.facts]
  rfl

@[simp] theorem isFilled_placeholder (h : Hash) : (placeholder h).isFilled = false := by
  unfold isFilled placeholder Metadata.fresh
  cases h.isNull <;> rfl

end Transaction

/-! ## Loading -/

/-- Every look-up in the store is answered from these tables. -/
def Store.Gets (s : Store) (T : Tables) : Prop :=
  ∀ part key, s.get part key = .ok ((T.table part).get? key)

namespace Store.Gets

variable {s : Store} {T : Tables} (h : s.Gets T)
include h

theorem loadFacts (g : Hash) (readers : List (UInt8 × Reader Fact)) :
    Transaction.loadFacts s g readers = .ok (T.found g readers) := by
  induction readers with
  | nil => rfl
  | cons r readers ih =>
    obtain ⟨tag, reader⟩ := r
    rw [Transaction.loadFacts, h, ih]
    cases hv : (T.table .transactionMetadata).get? (Key.ofFact g tag) with
    | none =>
      show Except.ok (T.found g readers) = _
      rw [Tables.found, Tables.found, List.filterMap_cons]
      simp only [hv, Option.map_none]
    | some b =>
      show Except.ok ((reader, b) :: T.found g readers) = _
      rw [Tables.found, Tables.found, List.filterMap_cons]
      simp only [hv, Option.map_some]

theorem load_missing {g : Hash} (hg : ¬ T.Stored g) :
    Transaction.load s g = .ok (.placeholder g) := by
  unfold Transaction.load
  rw [h, Tables.get?_of_not_stored hg]
  split <;> rfl

/-- A payload that is stored under a hash is read, and then what is known
    about it. -/
theorem load_payload {g : Hash} {payload : Bytes} (hg : g.isNull = false)
    (hpayload : (T.table .transaction).get? (Key.ofHash g) = some payload) :
    Transaction.load s g =
      match Transaction.ofStored g payload with
      | .error e => .error (.record (.payload e))
      | .ok t => (T.facts g).map fun facts => { t with facts } := by
  unfold Transaction.load
  rw [h, hpayload, if_neg (by simp [hg])]
  cases hread : Transaction.ofStored g payload with
  | error e => simp only [hread]
  | ok t =>
    -- a transaction that is read back has learned nothing yet
    have hfresh := (Transaction.ofStored_ok_iff.mp hread).2.2.1
    simp only [hread]
    show (do
      let stored ← Transaction.loadFacts s g Fact.readers
      let facts ← Transaction.learnAll t.facts stored
      return { t with facts } : Except StorageError Transaction) = _
    rw [h.loadFacts, hfresh]
    show (do
      let facts ← T.facts g
      return { t with facts } : Except StorageError Transaction) = (T.facts g).map _
    cases T.facts g <;> rfl

/-- What is loaded is a placeholder, for a hash that is null or not stored,
    or else the transaction that is stored. -/
theorem load_ok_iff {g : Hash} {t : Transaction} :
    Transaction.load s g = .ok t ↔
      (t = .placeholder g ∧ (g.isNull = true ∨ ¬ T.Stored g)) ∨ (g.isNull = false ∧ T.Loads g t) := by
  cases hnull : g.isNull with
  | true => simp [Transaction.load, hnull, eq_comm]
  | false =>
    simp only [Bool.false_eq_true, false_or, true_and]
    constructor
    · intro hok
      by_cases hstored : T.Stored g
      · obtain ⟨payload, hpayload⟩ := Option.isSome_iff_exists.mp hstored
        rw [h.load_payload hnull hpayload] at hok
        split at hok
        · cases hok
        · next u hread =>
          obtain ⟨hhash, hsame, _, hlegible⟩ := Transaction.ofStored_ok_iff.mp hread
          cases hfacts : T.facts g with
          | error e =>
            rw [hfacts] at hok
            cases hok
          | ok facts =>
            rw [hfacts] at hok
            obtain rfl : { u with facts } = t := Except.ok.inj hok
            exact .inr ⟨by rw [hpayload, hsame], hhash, hlegible, hfacts⟩
      · rw [h.load_missing hstored] at hok
        exact .inl ⟨(Except.ok.inj hok).symm, hstored⟩
    · rintro (⟨rfl, hmissing⟩ | ht)
      · exact h.load_missing hmissing
      · -- the payload is read as it was, and then the facts are learned
        have hread : Transaction.ofStored g t.payload = .ok { t with facts := .fresh .filled } :=
          Transaction.ofStored_ok_iff.mpr ⟨ht.hash, rfl, rfl, ht.legible⟩
        rw [h.load_payload hnull ht.payload, hread, ht.facts]
        rfl

theorem load_of_loads {g : Hash} {t : Transaction} (hg : g.isNull = false) (ht : T.Loads g t) :
    Transaction.load s g = .ok t :=
  h.load_ok_iff.mpr (.inr ⟨hg, ht⟩)

end Store.Gets

namespace Store.Keeps

variable {s : Store} {T : Tables} (h : s.Keeps T)
include h

theorem gets : s.Gets T := h.get

theorem load_ok_iff {g : Hash} {t : Transaction} :
    Transaction.load s g = .ok t ↔
      (t = .placeholder g ∧ (g.isNull = true ∨ ¬ T.Stored g)) ∨ (g.isNull = false ∧ T.Loads g t) :=
  h.gets.load_ok_iff

theorem load_of_loads {g : Hash} {t : Transaction} (hg : g.isNull = false) (ht : T.Loads g t) :
    Transaction.load s g = .ok t :=
  h.gets.load_of_loads hg ht

end Store.Keeps

namespace Transaction

/-- What is loaded depends on the payload and the facts under the hash alone. -/
theorem load_congr {s s' : Store} {g : Hash}
    (hpayload : s'.get .transaction (Key.ofHash g) = s.get .transaction (Key.ofHash g))
    (hfacts : ∀ tag, s'.get .transactionMetadata (Key.ofFact g tag) =
      s.get .transactionMetadata (Key.ofFact g tag)) : load s' g = load s g := by
  have hfound : ∀ readers, loadFacts s' g readers = loadFacts s g readers := by
    intro readers
    induction readers with
    | nil => rfl
    | cons r readers ih => simp only [loadFacts, hfacts, ih]
  simp only [load, hpayload, hfound]

end Transaction

end TernaryGossip
