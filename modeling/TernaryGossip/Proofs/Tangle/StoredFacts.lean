import TernaryGossip.Proofs.Store.Reading
import TernaryGossip.Proofs.Tangle.Loading

/-! # Stored facts

    Each fact about a transaction is stored under a key of its own, which
    its tag tells apart from the others, and is read back from what is
    stored.  A fact replaces what was known of its kind and is passed over by
    all facts of other kinds, so it does not matter in which order they are
    learned.

    Writing a fact therefore changes what is loaded for one hash by exactly
    this fact, whether a fact of its kind was stored before or not. -/

namespace TernaryGossip

/-! ## Facts of different kinds -/

namespace Metadata

/-- A fact replaces what was known of its kind. -/
theorem learn_learn (m : Metadata) {f g : Fact} (h : f.tag = g.tag) :
    (m.learn f).learn g = m.learn g := by
  cases f <;> cases g <;> first | rfl | simp [Fact.tag] at h

/-- Facts of different kinds may be learned in either order. -/
theorem learn_comm (m : Metadata) {f g : Fact} (h : f.tag ≠ g.tag) :
    (m.learn f).learn g = (m.learn g).learn f := by
  cases f <;> cases g <;> first | rfl | exact absurd rfl h

/-- What is known of one kind does not depend on facts of other kinds. -/
theorem knows_learn (m : Metadata) {f g : Fact} (h : f.tag ≠ g.tag) :
    (m.learn f).knows g = m.knows g := by
  rw [Bool.eq_iff_iff, knows, knows, beq_iff_eq, beq_iff_eq]
  obtain ⟨⟩ := m
  cases f <;> cases g <;> first | exact absurd rfl h | simp [learn]

end Metadata

/-! ## Reading a fact -/

theorem Reader.run_bind_pure {α β : Type} (r : Reader α) (f : α → β) (b : Bytes) :
    Reader.run (r >>= fun x => pure (f x)) b = (Reader.run r b).map f := by
  have hbind : (r >>= fun x => pure (f x) : Reader β) b =
      (r b).bind fun p => .ok (f p.1, p.2) := rfl
  rw [Reader.run, Reader.run, hbind]
  cases r b <;> rfl

namespace Fact

/-- What is read is a fact of the kind that the tag says. -/
theorem tag_of_run {r : UInt8 × Reader Fact} (hr : r ∈ readers) {b : Bytes} {f : Fact}
    (hrun : Reader.run r.2 b = .ok f) : f.tag = r.1 := by
  have hkind : ∀ {α : Type} (reader : Reader α) (kind : α → Fact) (tag : UInt8),
      (∀ x, (kind x).tag = tag) → Reader.run (reader >>= fun x => pure (kind x)) b = .ok f →
        f.tag = tag := by
    intro α reader kind tag htag hread
    rw [Reader.run_bind_pure] at hread
    cases hx : Reader.run reader b with
    | error e =>
      rw [hx] at hread
      cases hread
    | ok x =>
      rw [hx] at hread
      rw [← Except.ok.inj hread, htag]
  simp only [readers, List.mem_cons, List.not_mem_nil, or_false] at hr
  rcases hr with rfl | rfl | rfl | rfl | rfl | rfl
  · exact hkind Reader.truth .solid 1 (fun _ => rfl) hrun
  · exact hkind Reader.truth .confirmed 2 (fun _ => rfl) hrun
  · exact hkind (Reader.natural 8) (fun n => .height (UInt64.ofNat n)) 3 (fun _ => rfl) hrun
  · exact hkind (Reader.natural 8) (fun n => .arrival (UInt64.ofNat n).toInt64) 4 (fun _ => rfl)
      hrun
  · exact hkind Reader.text .sender 5 (fun _ => rfl) hrun
  · exact hkind (Reader.natural 4) (fun n => .validity (UInt32.ofNat n).toInt32) 6 (fun _ => rfl)
      hrun

/-- The length of a text fits the eight bytes that it is written in. -/
def Sized : Fact → Prop
  | .sender value => value.utf8ByteSize < 256 ^ 8
  | _ => True

instance : (f : Fact) → Decidable f.Sized
  | .sender value => inferInstanceAs (Decidable (value.utf8ByteSize < 256 ^ 8))
  | .solid _ | .confirmed _ | .height _ | .arrival _ | .validity _ =>
      inferInstanceAs (Decidable True)

/-- Every fact is read back by the reader of its tag. -/
theorem exists_reader {f : Fact} (h : f.Sized) :
    ∃ reader, (f.tag, reader) ∈ readers ∧ reader.Reads f.encode f := by
  cases f with
  | solid value =>
    exact ⟨_, List.mem_of_getElem? (i := 0) rfl, (Reader.reads_truth value).bind_nil (.pure _)⟩
  | confirmed value =>
    exact ⟨_, List.mem_of_getElem? (i := 1) rfl, (Reader.reads_truth value).bind_nil (.pure _)⟩
  | height value =>
    refine ⟨_, List.mem_of_getElem? (i := 2) rfl,
      (Reader.reads_natural value.toNat_lt).bind_nil ?_⟩
    rw [UInt64.ofNat_toNat]
    exact .pure _
  | arrival value =>
    refine ⟨_, List.mem_of_getElem? (i := 3) rfl,
      (Reader.reads_natural value.toUInt64.toNat_lt).bind_nil ?_⟩
    rw [UInt64.ofNat_toNat, Int64.toInt64_toUInt64]
    exact .pure _
  | sender value =>
    exact ⟨_, List.mem_of_getElem? (i := 4) rfl, (Reader.reads_text h).bind_nil (.pure _)⟩
  | validity value =>
    refine ⟨_, List.mem_of_getElem? (i := 5) rfl,
      (Reader.reads_natural value.toUInt32.toNat_lt).bind_nil ?_⟩
    rw [UInt32.ofNat_toNat, Int32.toInt32_toUInt32]
    exact .pure _

end Fact

/-! ## Learning what was read -/

namespace Transaction

theorem learnAll_append (m : Metadata) (xs ys : List (Reader Fact × Bytes)) :
    learnAll m (xs ++ ys) = (learnAll m xs).bind fun m => learnAll m ys := by
  induction xs generalizing m with
  | nil => rfl
  | cons e xs ih =>
    obtain ⟨reader, b⟩ := e
    rw [List.cons_append, learnAll, learnAll]
    cases Reader.run reader b with
    | error e => rfl
    | ok fact => exact ih (m.learn fact)

theorem learnAll_cons_ok_iff {m m' : Metadata} {e : Reader Fact × Bytes}
    {found : List (Reader Fact × Bytes)} :
    learnAll m (e :: found) = .ok m' ↔
      ∃ f, Reader.run e.1 e.2 = .ok f ∧ learnAll (m.learn f) found = .ok m' := by
  obtain ⟨reader, b⟩ := e
  rw [learnAll]
  cases Reader.run reader b with
  | error e =>
    constructor
    · intro h
      cases h
    · rintro ⟨f, hf, -⟩
      cases hf
  | ok f =>
    constructor
    · exact fun h => ⟨f, rfl, h⟩
    · rintro ⟨g, hg, hm⟩
      rw [← Except.ok.inj hg] at hm
      exact hm

/-- No fact of a kind is read from what is found. -/
def Without (tag : UInt8) (found : List (Reader Fact × Bytes)) : Prop :=
  ∀ e ∈ found, ∀ f, Reader.run e.1 e.2 = .ok f → f.tag ≠ tag

/-- A fact is passed over by all facts of other kinds. -/
theorem learnAll_learn {f : Fact} {found : List (Reader Fact × Bytes)} (h : Without f.tag found)
    (m : Metadata) : learnAll (m.learn f) found = (learnAll m found).map (·.learn f) := by
  induction found generalizing m with
  | nil => rfl
  | cons e found ih =>
    obtain ⟨hhead, htail⟩ := List.forall_mem_cons.mp h
    obtain ⟨reader, b⟩ := e
    rw [learnAll, learnAll]
    cases hread : Reader.run reader b with
    | error e => rfl
    | ok g =>
      show learnAll ((m.learn f).learn g) found = (learnAll (m.learn g) found).map _
      rw [m.learn_comm (hhead g hread).symm, ih htail]

end Transaction

/-! ## Writing a fact -/

namespace Tables

variable {T : Tables} {g h : Hash} {f : Fact} {m m' : Metadata} {t : Transaction}

theorem found_append (T : Tables) (h : Hash) (xs ys : List (UInt8 × Reader Fact)) :
    T.found h (xs ++ ys) = T.found h xs ++ T.found h ys :=
  List.filterMap_append

theorem found_cons (T : Tables) (h : Hash) (r : UInt8 × Reader Fact)
    (readers : List (UInt8 × Reader Fact)) :
    T.found h (r :: readers) =
      match (T.table .transactionMetadata).get? (Key.ofFact h r.1) with
      | none => T.found h readers
      | some b => (r.2, b) :: T.found h readers := by
  rw [found, List.filterMap_cons]
  cases (T.table .transactionMetadata).get? (Key.ofFact h r.1) <;> rfl

/-- What is found depends on the records under the tags alone. -/
theorem found_congr {T' : Tables} {readers : List (UInt8 × Reader Fact)}
    (hsame : ∀ r ∈ readers, (T'.table .transactionMetadata).get? (Key.ofFact h r.1) =
      (T.table .transactionMetadata).get? (Key.ofFact h r.1)) :
    T'.found h readers = T.found h readers :=
  List.filterMap_congr fun r hr => by rw [hsame r hr]

theorem without_found {readers : List (UInt8 × Reader Fact)} {tag : UInt8}
    (hsub : readers ⊆ Fact.readers) (htags : ∀ r ∈ readers, r.1 ≠ tag) (T : Tables) (h : Hash) :
    Transaction.Without tag (T.found h readers) := by
  intro e he f hread
  obtain ⟨r, hr, hsome⟩ := List.mem_filterMap.mp he
  obtain ⟨b, _, rfl⟩ := Option.map_eq_some_iff.mp hsome
  rw [Fact.tag_of_run (hsub hr) hread]
  exact htags r hr

/-- The tables once a fact about a hash is written. -/
def putFact (T : Tables) (h : Hash) (f : Fact) : Tables :=
  T.put .transactionMetadata (Key.ofFact h f.tag) f.encode

theorem get?_putFact_self (T : Tables) (h : Hash) (f : Fact) :
    ((T.putFact h f).table .transactionMetadata).get? (Key.ofFact h f.tag) = some f.encode := by
  rw [putFact, table_put_self, OrderedMap.get?_insert_self]

theorem get?_putFact_of_ne (T : Tables) (f : Fact) {tag : UInt8} (hne : ¬ (g = h ∧ tag = f.tag)) :
    ((T.putFact h f).table .transactionMetadata).get? (Key.ofFact g tag) =
      (T.table .transactionMetadata).get? (Key.ofFact g tag) := by
  rw [putFact, table_put_self,
    OrderedMap.get?_insert_of_ne _ _ fun heq => hne (Key.ofFact_inj.mp heq)]

theorem alike_putFact (T : Tables) (h : Hash) (f : Fact) : T.Alike (T.putFact h f) :=
  fun _ hpart => table_put_of_ne T _ _ hpart

/-- Of the facts that are read in a row, the written one is replaced or
    added, and the others stay. -/
theorem learnAll_found_putFact {readers : List (UInt8 × Reader Fact)} {reader : Reader Fact}
    (hsub : readers ⊆ Fact.readers) (hnodup : (readers.map Prod.fst).Nodup)
    (hmem : (f.tag, reader) ∈ readers) (hread : Reader.run reader f.encode = .ok f)
    (hm : Transaction.learnAll m (T.found h readers) = .ok m') :
    Transaction.learnAll m ((T.putFact h f).found h readers) = .ok (m'.learn f) := by
  induction readers generalizing m with
  | nil => exact absurd hmem List.not_mem_nil
  | cons r readers ih =>
    obtain ⟨hr, hnodup⟩ := List.nodup_cons.mp hnodup
    obtain ⟨hrsub, hsub⟩ := List.cons_subset.mp hsub
    rw [found_cons] at hm ⊢
    by_cases htag : r.1 = f.tag
    · -- the reader of the fact: none behind it has the tag
      have hothers : ∀ q ∈ readers, q.1 ≠ f.tag := by
        rintro q hq hqtag
        exact hr (List.mem_map.mpr ⟨q, hq, hqtag.trans htag.symm⟩)
      have hself : r = (f.tag, reader) := by
        rcases List.mem_cons.mp hmem with heq | hin
        · exact heq.symm
        · exact absurd rfl (hothers _ hin)
      have hrest : (T.putFact h f).found h readers = T.found h readers :=
        found_congr fun q hq => get?_putFact_of_ne T f fun heq => hothers q hq heq.2
      have hwithout := without_found hsub hothers T h
      rw [htag] at hm ⊢
      rw [get?_putFact_self, hrest]
      refine Transaction.learnAll_cons_ok_iff.mpr ⟨f, by rw [hself]; exact hread, ?_⟩
      rw [Transaction.learnAll_learn hwithout]
      cases hold : (T.table .transactionMetadata).get? (Key.ofFact h f.tag) with
      | none =>
        rw [hold] at hm
        exact congrArg (Except.map (·.learn f)) hm
      | some b =>
        rw [hold] at hm
        obtain ⟨e, he, hlearned⟩ := Transaction.learnAll_cons_ok_iff.mp hm
        have hkind : e.tag = f.tag := (Fact.tag_of_run hrsub he).trans htag
        have hreplaced := Transaction.learnAll_learn hwithout (m.learn e)
        rw [m.learn_learn hkind, Transaction.learnAll_learn hwithout, hlearned] at hreplaced
        exact hreplaced
    · -- another reader finds what it found before
      have hin : (f.tag, reader) ∈ readers := by
        rcases List.mem_cons.mp hmem with heq | hin
        · exact absurd (congrArg Prod.fst heq).symm htag
        · exact hin
      rw [get?_putFact_of_ne T f fun heq => htag heq.2]
      cases hold : (T.table .transactionMetadata).get? (Key.ofFact h r.1) with
      | none =>
        rw [hold] at hm
        exact ih hsub hnodup hin hm
      | some b =>
        rw [hold] at hm
        obtain ⟨e, he, hlearned⟩ := Transaction.learnAll_cons_ok_iff.mp hm
        exact Transaction.learnAll_cons_ok_iff.mpr ⟨e, he, ih hsub hnodup hin hlearned⟩

/-- The facts about a hash are as before but for the one that is written. -/
theorem facts_putFact (hf : f.Sized) (hm : T.facts h = .ok m) :
    (T.putFact h f).facts h = .ok (m.learn f) := by
  obtain ⟨reader, hmem, hreads⟩ := Fact.exists_reader hf
  exact learnAll_found_putFact (List.Subset.refl _) (by decide) hmem hreads.run hm

theorem Loads.putFact (ht : T.Loads h t) (hf : f.Sized) :
    (T.putFact h f).Loads h { t with facts := t.facts.learn f } where
  payload := by
    rw [T.alike_putFact h f .transaction (by decide)]
    exact ht.payload
  hash := ht.hash
  legible := ht.legible
  facts := facts_putFact hf ht.facts

end Tables

end TernaryGossip
