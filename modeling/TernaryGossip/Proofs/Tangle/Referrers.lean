import Mathlib.Data.Finset.Card
import TernaryGossip.Proofs.Tangle.Loading

/-! # References mirror payloads

    What is written when a transaction is stored says the same thing twice:
    once as a payload, and once as entries under the hashes that the payload
    refers to.  Over one fault-free provider that is written by storing
    alone, the two never disagree.

    The first transaction that is stored under a hash stays; later ones of
    the same hash are not written.  So all tables can be read off the list of
    the transactions that were stored, in their order: the payload of a hash
    is that of the first one, and the entries are the references of the
    first ones.

    The entries of a hash are found by going along the keys that begin with
    it.  They come in the order of the referrers, each of them once. -/

namespace TernaryGossip

/-! ## The order of reference keys -/

namespace Key

theorem compare_ofReference (h a b : Hash) :
    compare (ofReference h a) (ofReference h b) = compare a b :=
  compare_append_left h.bytes a.bytes b.bytes

theorem ofReference_inj {a b c d : Hash} : ofReference a b = ofReference c d ↔ a = c ∧ b = d := by
  constructor
  · intro heq
    have hlen : a.bytes.length = c.bytes.length := by rw [a.length_bytes, c.length_bytes]
    obtain ⟨hreferred, hreferrer⟩ := List.append_inj heq hlen
    exact ⟨Hash.eq_of_bytes_eq hreferred, Hash.eq_of_bytes_eq hreferrer⟩
  · rintro ⟨rfl, rfl⟩
    rfl

/-- A key that joins two hashes. -/
def IsReference (key : Bytes) : Prop := ∃ referred referrer, key = ofReference referred referrer

/-- What begins with a hash and joins two begins with the one referred to. -/
theorem IsReference.of_starts {key : Bytes} {h : Hash} (hkey : IsReference key)
    (hstarts : h.bytes <+: key) : ∃ g, key = ofReference h g := by
  obtain ⟨referred, g, rfl⟩ := hkey
  have hreferred : referred = h := (prefix_ofReference h referred g).mp hstarts
  exact ⟨g, by rw [hreferred]⟩

end Key

section scan
variable {t : Table} (hjoined : ∀ key, t.contains key = true → Key.IsReference key)
include hjoined

/-- The referrers that are found under a hash are those of its entries. -/
theorem mem_referrers_iff (h g : Hash) :
    g ∈ (Provider.keysFrom t h.bytes).filterMap Key.referrer? ↔
      t.contains (Key.ofReference h g) = true := by
  rw [List.mem_filterMap]
  constructor
  · rintro ⟨key, hkey, hg⟩
    obtain ⟨hcontains, hstarts⟩ := (Provider.mem_keysFrom t h.bytes key).mp hkey
    obtain ⟨g', rfl⟩ := (hjoined key hcontains).of_starts hstarts
    rw [Key.referrer?_ofReference] at hg
    rwa [← Option.some.inj hg]
  · intro hcontains
    have hstarts := (Key.prefix_ofReference h h g).mpr rfl
    exact ⟨_, (Provider.mem_keysFrom t h.bytes _).mpr ⟨hcontains, hstarts⟩,
      Key.referrer?_ofReference h g⟩

/-- They ascend strictly, because all of their keys begin alike. -/
theorem pairwise_referrers (h : Hash) :
    ((Provider.keysFrom t h.bytes).filterMap Key.referrer?).Pairwise
      fun a b => compare a b = .lt := by
  have hkeys : (Provider.keysFrom t h.bytes).Pairwise fun a b => compare a b = .lt := by
    rw [Provider.keysFrom_eq_filter]
    exact t.sorted_keys.filter _
  rw [List.pairwise_filterMap]
  refine hkeys.imp_of_mem ?_
  intro key key' hkey hkey' hlt a ha b hb
  obtain ⟨hcontains, hstarts⟩ := (Provider.mem_keysFrom t h.bytes key).mp hkey
  obtain ⟨hcontains', hstarts'⟩ := (Provider.mem_keysFrom t h.bytes key').mp hkey'
  obtain ⟨g, rfl⟩ := (hjoined key hcontains).of_starts hstarts
  obtain ⟨g', rfl⟩ := (hjoined key' hcontains').of_starts hstarts'
  rw [Key.referrer?_ofReference] at ha hb
  rw [← Option.some.inj ha, ← Option.some.inj hb, ← Key.compare_ofReference h]
  exact hlt

end scan

theorem Store.Keeps.referrers {s : Store} {T : Tables} (hs : s.Keeps T) (part : Partition)
    (h : Hash) :
    Transaction.referrers s part h =
      .ok ((Provider.keysFrom (T.table part) h.bytes).filterMap Key.referrer?) := by
  rw [Transaction.referrers, hs.keys]
  rfl

namespace Transaction

/-! ## The transactions that were stored -/

/-- How a transaction is made: it is decoded, or built from balanced
    trits. -/
inductive Made : Transaction → Prop
  /-- From a payload. -/
  | decoded {payload : Bytes} {t : Transaction} (h : decode payload = .ok t) : Made t
  /-- From trits. -/
  | built {ts : Trits} (h : ts.Balanced) : Made (ofTrits ts)

namespace Made

variable {t : Transaction}

theorem legible (h : t.Made) : t.Legible := by
  cases h with
  | decoded h => exact legible_of_decode h
  | built h => exact legible_ofTrits h

/-- Nothing is known yet about a transaction that was just made. -/
theorem facts_eq (h : t.Made) : t.facts = .fresh .filled := by
  cases h with
  | decoded h => exact (ofStored_ok_iff.mp (decode_ok_iff.mp h).1).2.2.1
  | built h => rfl

end Made

/-- The first transaction of a hash. -/
def firstOf (ts : List Transaction) (h : Hash) : Option Transaction :=
  ts.find? fun t => t.hash == h

theorem firstOf_concat (ts : List Transaction) (t : Transaction) (h : Hash) :
    firstOf (ts ++ [t]) h = (firstOf ts h).or (if t.hash = h then some t else none) := by
  rw [firstOf, firstOf, List.find?_append, List.find?_singleton]
  simp only [beq_iff_eq]

theorem hash_of_firstOf {ts : List Transaction} {t : Transaction} {h : Hash}
    (hfirst : firstOf ts h = some t) : t.hash = h := by
  have hhash := List.find?_some hfirst
  exact eq_of_beq hhash

/-- A later transaction is the first of its hash only if none came before. -/
theorem firstOf_concat_of_isSome {ts : List Transaction} {t : Transaction}
    (hknown : (firstOf ts t.hash).isSome) (h : Hash) : firstOf (ts ++ [t]) h = firstOf ts h := by
  rw [firstOf_concat]
  by_cases hh : t.hash = h
  · rw [hh] at hknown
    obtain ⟨u, hu⟩ := Option.isSome_iff_exists.mp hknown
    rw [hu, Option.some_or]
  · rw [if_neg hh, Option.or_none]

theorem firstOf_concat_eq_some_iff {ts : List Transaction} {t : Transaction}
    (hnew : firstOf ts t.hash = none) {h : Hash} {u : Transaction} :
    firstOf (ts ++ [t]) h = some u ↔ (h = t.hash ∧ u = t) ∨ firstOf ts h = some u := by
  rw [firstOf_concat]
  by_cases hh : t.hash = h
  · rw [← hh, hnew, if_pos rfl]
    simp [eq_comm]
  · rw [if_neg hh, Option.or_none]
    simp [Ne.symm hh]

theorem isSome_firstOf_iff {ts : List Transaction} {h : Hash} :
    (firstOf ts h).isSome ↔ h ∈ ts.map (·.hash) := by
  simp [firstOf, List.find?_isSome, List.mem_map]

/-- Stores transactions one after another. -/
def storeAll (s : Store) (ts : List Transaction) : Store :=
  ts.foldl (fun s t => (t.store s).2) s

theorem storeAll_append (s : Store) (ts us : List Transaction) :
    storeAll s (ts ++ us) = storeAll (storeAll s ts) us :=
  List.foldl_append

/-- The hashes under which a partition has entries of a transaction. -/
def references (t : Transaction) : Partition → List Hash
  | .approvers => [t.trunk, t.branch]
  | .address => [t.address]
  | .bundle => [t.bundle]
  | .tag => [t.tag]
  | _ => []

/-- What is written of a transaction, other than its payload. -/
theorem contains_puts (t : Transaction) (T : Tables) {part : Partition} (hpart : part ≠ .transaction)
    (key : Bytes) :
    ((T.putAll t.puts).table part).contains key = true ↔
      (∃ h ∈ t.references part, key = Key.ofReference h t.hash) ∨
        (T.table part).contains key = true := by
  rw [Tables.contains_putAll]
  refine or_congr_left ?_
  cases part <;> simp [puts, references, eq_comm] at hpart ⊢

end Transaction

/-! ## The mirror -/

open Transaction (firstOf storeAll)

/-- The tables hold the first transaction of every hash, and its references. -/
structure Tables.Mirrors (T : Tables) (ts : List Transaction) : Prop where
  payload : ∀ h, (T.table .transaction).get? (Key.ofHash h) = (firstOf ts h).map (·.payload)
  size : (T.table .transaction).size = (ts.map (·.hash)).toFinset.card
  reference : ∀ part, part ≠ .transaction → ∀ key, (T.table part).contains key = true ↔
    ∃ g t, firstOf ts g = some t ∧ ∃ h ∈ t.references part, key = Key.ofReference h g

namespace Tables.Mirrors

variable {T : Tables} {ts : List Transaction} {t : Transaction}

theorem empty : Mirrors .empty [] where
  payload _ := rfl
  size := rfl
  reference part _ key := by simp [Tables.table, OrderedMap.contains, firstOf]

theorem stored_iff (hT : T.Mirrors ts) (h : Hash) : T.Stored h ↔ (firstOf ts h).isSome := by
  rw [Stored, OrderedMap.contains, hT.payload, Option.isSome_map]

theorem known (hT : T.Mirrors ts) (hknown : T.Stored t.hash) : T.Mirrors (ts ++ [t]) := by
  have hsome := (hT.stored_iff t.hash).mp hknown
  have hfirst := Transaction.firstOf_concat_of_isSome hsome
  refine ⟨?_, ?_, ?_⟩
  · intro h
    rw [hT.payload, hfirst]
  · have hmem : t.hash ∈ (ts.map (·.hash)).toFinset :=
      List.mem_toFinset.mpr (Transaction.isSome_firstOf_iff.mp hsome)
    rw [hT.size, List.map_append, List.map_singleton, List.toFinset_append, List.toFinset_cons,
      List.toFinset_nil, insert_empty_eq, Finset.union_singleton, Finset.insert_eq_of_mem hmem]
  · intro part hpart key
    rw [hT.reference part hpart]
    simp only [hfirst]

theorem new (hT : T.Mirrors ts) (hnew : ¬ T.Stored t.hash) :
    (T.putAll t.puts).Mirrors (ts ++ [t]) := by
  have hnone : firstOf ts t.hash = none := by
    rw [← Option.not_isSome_iff_eq_none, ← hT.stored_iff]
    exact hnew
  refine ⟨?_, ?_, ?_⟩
  · intro h
    rw [Transaction.table_transaction_puts, Transaction.firstOf_concat]
    by_cases hh : t.hash = h
    · rw [← hh, OrderedMap.get?_insert_self, hnone, if_pos rfl]
      rfl
    · have hkey : Key.ofHash h ≠ Key.ofHash t.hash := fun heq => hh (Key.ofHash_inj.mp heq).symm
      rw [OrderedMap.get?_insert_of_ne _ _ hkey, hT.payload, if_neg hh, Option.or_none]
  · have hmem : t.hash ∉ (ts.map (·.hash)).toFinset := by
      rw [List.mem_toFinset, ← Transaction.isSome_firstOf_iff, hnone]
      simp
    rw [Transaction.size_puts hnew, hT.size, List.map_append, List.map_singleton,
      List.toFinset_append, List.toFinset_cons, List.toFinset_nil, insert_empty_eq,
      Finset.union_singleton, Finset.card_insert_of_notMem hmem]
  · intro part hpart key
    rw [Transaction.contains_puts t T hpart, hT.reference part hpart]
    simp only [Transaction.firstOf_concat_eq_some_iff hnone, or_and_right, exists_or, and_assoc]
    refine or_congr_left ⟨?_, ?_⟩
    · rintro ⟨h, hh, hkey⟩
      exact ⟨t.hash, t, rfl, rfl, h, hh, hkey⟩
    · rintro ⟨_, _, rfl, rfl, hentry⟩
      exact hentry

/-- Storing more transactions keeps the mirror. -/
theorem storeAll (hT : T.Mirrors ts) (us : List Transaction) {s : Store} (hs : s.Keeps T) :
    ∃ T', (storeAll s us).Keeps T' ∧ T'.Mirrors (ts ++ us) := by
  induction us generalizing s T ts with
  | nil => exact ⟨T, hs, by rwa [List.append_nil]⟩
  | cons u us ih =>
    rw [← List.singleton_append (l := us), ← List.append_assoc]
    rcases hs.store_cases u with ⟨hknown, hans⟩ | ⟨hnew, s', hans, hs'⟩
    · have hstep : Transaction.storeAll s ([u] ++ us) = Transaction.storeAll s us := by
        rw [Transaction.storeAll_append]
        show Transaction.storeAll (u.store s).2 us = _
        rw [hans]
      rw [hstep]
      exact ih (hT.known hknown) hs
    · have hstep : Transaction.storeAll s ([u] ++ us) = Transaction.storeAll s' us := by
        rw [Transaction.storeAll_append]
        show Transaction.storeAll (u.store s).2 us = _
        rw [hans]
      rw [hstep]
      exact ih (hT.new hnew) hs'

/-- No facts are stored with a payload. -/
theorem loads (hT : T.Mirrors ts) {h : Hash} (hfirst : firstOf ts h = some t) (hmade : t.Made) :
    T.Loads h t where
  payload := by rw [hT.payload, hfirst, Option.map_some]
  hash := Transaction.hash_of_firstOf hfirst
  legible := hmade.legible
  facts := by
    rw [hmade.facts_eq]
    refine facts_of_empty h fun tag => ?_
    rw [← Option.not_isSome_iff_eq_none]
    intro hcontains
    obtain ⟨_, u, _, g, hg, _⟩ := (hT.reference .transactionMetadata (by decide) _).mp hcontains
    cases hg

end Tables.Mirrors

namespace Transaction

/-- After any transactions were stored over one fault-free provider that was
    empty, the referrers of a hash, in any partition, are the hashes whose
    stored transaction refers to it, in strictly ascending order.  As many
    transactions are stored as there are hashes; and what is loaded for a
    hash that is not null is the first transaction stored under it, whatever
    is stored later. -/
theorem referrers_mirror_payloads {s : Store} (hs : s.Keeps .empty) {ts : List Transaction}
    (hmade : ∀ t ∈ ts, t.Made) :
    (∀ part, part ≠ .transaction → ∀ h, ∃ found, referrers (storeAll s ts) part h = .ok found ∧
      found.Pairwise (fun a b => compare a b = .lt) ∧
      ∀ g, g ∈ found ↔ ∃ t, firstOf ts g = some t ∧ h ∈ t.references part) ∧
    storedCount (storeAll s ts) = .ok (ts.map (·.hash)).toFinset.card ∧
    ∀ h t, firstOf ts h = some t → h.isNull = false →
      ∀ us, load (storeAll s (ts ++ us)) h = .ok t := by
  obtain ⟨T, hkeeps, hT⟩ := Tables.Mirrors.empty.storeAll ts hs
  rw [List.nil_append] at hT
  refine ⟨?_, ?_, ?_⟩
  · intro part hpart h
    have hjoined : ∀ key, (T.table part).contains key = true → Key.IsReference key := by
      intro key hkey
      obtain ⟨g, t, _, k, _, rfl⟩ := (hT.reference part hpart key).mp hkey
      exact ⟨k, g, rfl⟩
    refine ⟨_, hkeeps.referrers part h, pairwise_referrers hjoined h, fun g => ?_⟩
    rw [mem_referrers_iff hjoined, hT.reference part hpart]
    constructor
    · rintro ⟨g', t, hfirst, k, hk, hkey⟩
      obtain ⟨rfl, rfl⟩ := Key.ofReference_inj.mp hkey
      exact ⟨t, hfirst, hk⟩
    · rintro ⟨t, hfirst, hh⟩
      exact ⟨g, t, hfirst, h, hh, rfl⟩
  · rw [storedCount, hkeeps.count, hT.size]
  · intro h t hfirst hnull us
    have hmem : t ∈ ts := List.mem_of_find?_eq_some hfirst
    obtain ⟨T', hkeeps', hT'⟩ := hT.storeAll us hkeeps
    have hfirst' : firstOf (ts ++ us) h = some t := by
      unfold firstOf at hfirst ⊢
      rw [List.find?_append, hfirst, Option.some_or]
    rw [storeAll_append]
    exact hkeeps'.load_of_loads hnull (hT'.loads hfirst' (hmade t hmem))

/-- The payload of zeros, stored twice, is counted once and found under its
    trunk. -/
theorem referrers_mirror_payloads_zeros :
    ∃ t, decode zeros = .ok t ∧ (∀ u ∈ [t, t], u.Made) ∧
      storedCount (storeAll ⟨[Provider.memory]⟩ [t, t]) = .ok 1 ∧
      ∃ found, referrers (storeAll ⟨[Provider.memory]⟩ [t, t]) .approvers t.trunk = .ok found ∧
        t.hash ∈ found := by
  obtain ⟨t, hdecode, _, _⟩ := decode_zeros
  have hmade : ∀ u ∈ [t, t], u.Made := by
    intro u hu
    obtain rfl : u = t := by simpa using hu
    exact .decoded hdecode
  obtain ⟨hreferrers, hcount, _⟩ := referrers_mirror_payloads (Store.keeps_fresh "memory") hmade
  obtain ⟨found, hfound, _, hmem⟩ := hreferrers .approvers (by decide) t.trunk
  have hfirst : firstOf [t, t] t.hash = some t := by simp [firstOf]
  have hone : ([t, t].map (·.hash)).toFinset.card = 1 := by simp
  rw [hone] at hcount
  exact ⟨t, hdecode, hmade, hcount, found, hfound,
    (hmem t.hash).mpr ⟨t, hfirst, List.mem_cons_self⟩⟩

end Transaction

end TernaryGossip
