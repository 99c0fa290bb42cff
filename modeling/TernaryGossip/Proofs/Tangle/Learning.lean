import TernaryGossip.Proofs.Tangle.Failing
import TernaryGossip.Proofs.Tangle.StoredFacts

/-! # Learning where writing may fail

    A store has one provider.  Looking up a record in it never fails, but any
    of its writes may, and a write that fails changes nothing.

    A transaction learns a fact by writing it first and noting it in its own
    metadata only then.  So what is stored under its hash keeps in step with
    it through every sequence of facts, whichever of them cannot be written:
    what is loaded has the metadata of the transaction.  This holds from the
    storing of a transaction on if it knows its payload, the payload that is
    stored then can be read, its hash is not null and nothing was learned
    about it before. -/

namespace TernaryGossip

/-! ## One provider that may fail to write -/

/-- Looking up a record never fails. -/
structure Provider.LooksUp (p : Provider) : Prop where
  get : ∀ attempts, p.faults attempts .get = false
  contains : ∀ attempts, p.faults attempts .contains = false

theorem Provider.LooksUp.fresh (name : String) : (Provider.fresh name).LooksUp :=
  ⟨fun _ => rfl, fun _ => rfl⟩

namespace Store

/-- The store has one provider, with these tables, and looking up a record in
    it never fails. -/
def Backed (s : Store) (T : Tables) : Prop :=
  ∃ p, s = ⟨[p]⟩ ∧ p.LooksUp ∧ p.tables = T

theorem changing_one {α : Type} (p : Provider)
    (change : Provider → Except StorageError α × Provider) :
    Store.changing ⟨[p]⟩ change = ((change p).1, ⟨[(change p).2]⟩) := by
  unfold changing everywhere
  rcases hp : change p with ⟨_ | a, p'⟩ <;> rfl

namespace Backed

variable {s s' : Store} {T : Tables} {t : Transaction} {b : Bool}

theorem tables (hs : s.Backed T) : s.tables = [T] := by
  obtain ⟨p, rfl, _, rfl⟩ := hs
  rfl

theorem gets (hs : s.Backed T) : s.Gets T := by
  obtain ⟨p, rfl, hp, rfl⟩ := hs
  intro part key
  have hget : p.get part key = .ok ((p.tables.table part).get? key) := by
    rw [Provider.get, Provider.reading, Provider.fails, hp.get]
    rfl
  rw [Store.get, firstSome, hget]
  cases (p.tables.table part).get? key <;> rfl

theorem isStored (hs : s.Backed T) (g : Hash) :
    Transaction.isStored s g = .ok (decide (T.Stored g)) := by
  obtain ⟨p, rfl, hp, rfl⟩ := hs
  have hanswering : Store.Answering ⟨[p]⟩ := by
    intro q hq
    rw [List.mem_singleton.mp hq]
    exact hp.contains
  have hstored : Store.Stored ⟨[p]⟩ g ↔ p.tables.Stored g := by
    constructor
    · rintro ⟨q, hq, hhas⟩
      rwa [List.mem_singleton.mp hq] at hhas
    · exact fun hhas => ⟨p, List.mem_singleton_self p, hhas⟩
  rw [hanswering.isStored]
  exact congrArg Except.ok (decide_eq_decide.mpr hstored)

/-- A record is written, or writing it fails and nothing changes. -/
theorem save (hs : s.Backed T) (part : Partition) (key value : Bytes) :
    (∃ e s', s.save part key value = (.error e, s') ∧ s'.Backed T) ∨
      ∃ b s', s.save part key value = (.ok b, s') ∧ s'.Backed (T.put part key value) := by
  obtain ⟨p, rfl, hp, rfl⟩ := hs
  rw [Store.save, changing_one, Provider.save]
  split
  · exact .inl ⟨_, _, rfl, p.attempt, rfl, ⟨hp.get, hp.contains⟩, rfl⟩
  · exact .inr ⟨_, _, rfl, _, rfl, ⟨hp.get, hp.contains⟩, rfl⟩

/-- Once storing a transaction succeeded, it was stored before, or all of its
    records were written. -/
theorem of_store_ok (hs : s.Backed T) (hstore : t.store s = (.ok b, s')) :
    (T.Stored t.hash ∧ s'.Backed T) ∨ (¬ T.Stored t.hash ∧ s'.Backed (T.putAll t.puts)) := by
  unfold Transaction.store at hstore
  rw [hs.isStored] at hstore
  by_cases hstored : T.Stored t.hash
  · simp only [hstored, decide_true] at hstore
    cases hstore
    exact .inl ⟨hstored, hs⟩
  · simp only [hstored, decide_false] at hstore
    obtain ⟨p, rfl, hp, rfl⟩ := hs
    rw [saveAll, changing_one, Provider.saveAll] at hstore
    split at hstore
    · cases hstore
    · cases hstore
      exact .inr ⟨hstored, _, rfl, ⟨hp.get, hp.contains⟩, rfl⟩

end Backed

end Store

/-! ## In step -/

/-- A payload that is stored under a hash can be read. -/
def Tables.Readable (T : Tables) (h : Hash) : Prop :=
  ∀ b, (T.table .transaction).get? (Key.ofHash h) = some b →
    ∃ u : Transaction, u.payload = b ∧ u.Legible

/-- What is stored under the hash of a transaction has its metadata. -/
def Tables.InStep (T : Tables) (t : Transaction) : Prop :=
  ∃ u, T.Loads t.hash u ∧ u.facts = t.facts

/-- What is loaded under the hash of a transaction has its metadata. -/
def Transaction.LoadsAlike (t : Transaction) (s : Store) : Prop :=
  ∃ u, load s t.hash = .ok u ∧ u.facts = t.facts

namespace Tables

variable {T : Tables} {t : Transaction} {f : Fact}

theorem readable_empty (h : Hash) : Readable .empty h := by
  intro b hb
  cases hb

theorem InStep.loadsAlike {s : Store} (h : T.InStep t) (hs : s.Backed T)
    (hnull : t.hash.isNull = false) : t.LoadsAlike s := by
  obtain ⟨u, hu, hfacts⟩ := h
  exact ⟨u, hs.gets.load_of_loads hnull hu, hfacts⟩

/-- A payload that can be read and about which nothing is stored is in step
    with a transaction that knows nothing but that it is stored. -/
theorem Readable.inStep (h : T.Readable t.hash) (hstored : T.Stored t.hash)
    (hfilled : t.facts = .fresh .filled)
    (hempty : ∀ tag, (T.table .transactionMetadata).get? (Key.ofFact t.hash tag) = none) :
    T.InStep t := by
  obtain ⟨b, hpayload⟩ := Option.isSome_iff_exists.mp hstored
  obtain ⟨u, rfl, hlegible⟩ := h b hpayload
  refine ⟨{ u with hash := t.hash, facts := .fresh .filled }, ?_, hfilled.symm⟩
  exact ⟨hpayload, rfl, hlegible, facts_of_empty t.hash hempty⟩

theorem InStep.putFact (h : T.InStep t) (hf : f.Sized) :
    (T.putFact t.hash f).InStep { t with facts := t.facts.learn f } := by
  obtain ⟨u, hu, hfacts⟩ := h
  exact ⟨_, hu.putFact hf, by rw [hfacts]⟩

end Tables

/-! ## Stored -/

/-- A payload can be read if every byte of it is a group. -/
theorem Transaction.exists_legible {t : Transaction} (h : Packed.Valid t.payload) :
    ∃ u : Transaction, u.payload = t.payload ∧ u.Legible := by
  obtain ⟨ts, hread⟩ := (Packed.unpack_ok_iff (n := 8019) (by rw [t.length_payload])).mpr h
  exact ⟨{ t with trits := ts, length_trits := Packed.length_of_unpack hread }, rfl, hread⟩

namespace Store.Backed

variable {s s' : Store} {T : Tables} {t : Transaction} {b : Bool}

/-- A transaction that was stored is in step if it knows nothing but its
    payload, whichever payload is under its hash. -/
theorem inStep_of_store_ok (hs : s.Backed T) (hfilled : t.facts = .fresh .filled)
    (hvalid : Packed.Valid t.payload) (hbefore : T.Readable t.hash)
    (hempty : ∀ tag, (T.table .transactionMetadata).get? (Key.ofFact t.hash tag) = none)
    (hstore : t.store s = (.ok b, s')) : ∃ T', s'.Backed T' ∧ T'.InStep t := by
  rcases hs.of_store_ok hstore with ⟨hstored, hs'⟩ | ⟨-, hs'⟩
  · exact ⟨T, hs', hbefore.inStep hstored hfilled hempty⟩
  · have hpayload : ((T.putAll t.puts).table .transaction).get? (Key.ofHash t.hash) =
        some t.payload := by
      rw [t.table_transaction_puts, OrderedMap.get?_insert_self]
    have hreadable : (T.putAll t.puts).Readable t.hash := by
      intro b hb
      rw [← Option.some.inj (hpayload.symm.trans hb)]
      exact Transaction.exists_legible hvalid
    refine ⟨T.putAll t.puts, hs', hreadable.inStep ?_ hfilled ?_⟩
    · exact Option.isSome_iff_exists.mpr ⟨t.payload, hpayload⟩
    · intro tag
      rw [t.table_metadata_puts T, hempty]

/-- A transaction that was stored with a payload that can be read, and about
    which nothing was learned before, is in step exactly if it knows nothing
    but its payload. -/
theorem loadsAlike_iff_of_store_ok (hs : s.Backed T) (hvalid : Packed.Valid t.payload)
    (hnull : t.hash.isNull = false) (hbefore : T.Readable t.hash)
    (hempty : ∀ tag, (T.table .transactionMetadata).get? (Key.ofFact t.hash tag) = none)
    (hstore : t.store s = (.ok b, s')) : t.LoadsAlike s' ↔ t.facts = .fresh .filled := by
  obtain ⟨u, hload, hfacts⟩ : ({ t with facts := .fresh .filled } : Transaction).LoadsAlike s' := by
    obtain ⟨T', hs', hin⟩ := hs.inStep_of_store_ok (t := { t with facts := .fresh .filled })
      rfl hvalid hbefore hempty hstore
    exact hin.loadsAlike hs' hnull
  constructor
  · rintro ⟨u', hload', hfacts'⟩
    rw [← hfacts', Except.ok.inj (hload'.symm.trans hload), hfacts]
  · exact fun h => ⟨u, hload, hfacts.trans h.symm⟩

/-- A transaction that knows its payload, but whose payload cannot be read,
    is not in step with what is stored once it is written. -/
theorem not_loadsAlike_of_not_valid (hs : s.Backed T) (hinvalid : ¬ Packed.Valid t.payload)
    (hfilled : t.isFilled = true) (hnew : ¬ T.Stored t.hash) (hstore : t.store s = (.ok b, s')) :
    ¬ t.LoadsAlike s' := by
  rintro ⟨u, hload, hfacts⟩
  rcases hs.of_store_ok hstore with ⟨hstored, -⟩ | ⟨-, hs'⟩
  · exact hnew hstored
  rcases hs'.gets.load_ok_iff.mp hload with ⟨rfl, -⟩ | ⟨-, hu⟩
  · have hplaceholder := Transaction.isFilled_placeholder t.hash
    rw [Transaction.isFilled, hfacts] at hplaceholder
    rw [Transaction.isFilled, hplaceholder] at hfilled
    cases hfilled
  · have hpayload : some t.payload = some u.payload := by
      rw [← hu.payload, t.table_transaction_puts, OrderedMap.get?_insert_self]
    have hread : Packed.unpack 8019 u.payload = .ok u.trits := hu.legible
    rw [← Option.some.inj hpayload] at hread
    exact hinvalid ((Packed.unpack_ok_iff (by rw [t.length_payload])).mp ⟨u.trits, hread⟩)

end Store.Backed

/-! ## Learning a fact -/

/-- Learning a fact does what it says: it says yes exactly if the metadata
    changed, and no exactly if the fact was known; a fact that was known is
    not written, and one that cannot be written is not noted either; and it
    is about this kind of fact and this transaction alone. -/
structure Transaction.LearnsExactly (t : Transaction) (s : Store) (f : Fact) : Prop where
  yes_iff : (t.learn s f).1 = .ok true ↔ (t.learn s f).2.1.facts ≠ t.facts
  no_iff : (t.learn s f).1 = .ok false ↔ t.facts.learn f = t.facts
  yes : (t.learn s f).1 = .ok true →
    (t.learn s f).2.1 = { t with facts := t.facts.learn f } ∧
      (t.learn s f).2.2.tables = s.tables.map (·.putFact t.hash f)
  no : (t.learn s f).1 = .ok false → (t.learn s f).2 = (t, s)
  failed : ∀ e, (t.learn s f).1 = .error e →
    (t.learn s f).2.1 = t ∧ (t.learn s f).2.2.tables = s.tables
  kinds : ∀ g : Fact, g.tag ≠ f.tag → (t.learn s f).2.1.facts.knows g = t.facts.knows g
  hashes : ∀ h, h ≠ t.hash → Transaction.load (t.learn s f).2.2 h = Transaction.load s h

namespace Store.Backed

variable {s : Store} {T : Tables} {t : Transaction}

/-- All that learning can do: the fact was known, or writing it failed, or it
    is written and noted. -/
theorem learn_cases (hs : s.Backed T) (t : Transaction) (f : Fact) :
    (t.facts.learn f = t.facts ∧ t.learn s f = (.ok false, t, s)) ∨
    (t.facts.learn f ≠ t.facts ∧ ∃ e s', t.learn s f = (.error e, t, s') ∧ s'.Backed T) ∨
    (t.facts.learn f ≠ t.facts ∧ ∃ s',
      t.learn s f = (.ok true, { t with facts := t.facts.learn f }, s') ∧
        s'.Backed (T.putFact t.hash f)) := by
  unfold Transaction.learn
  by_cases hknows : t.facts.knows f = true
  · exact .inl ⟨eq_of_beq hknows, if_pos hknows⟩
  · have hne : t.facts.learn f ≠ t.facts := fun heq => hknows (beq_iff_eq.mpr heq)
    rw [if_neg hknows]
    rcases hs.save .transactionMetadata (Key.ofFact t.hash f.tag) f.encode with
      ⟨e, s', hsave, hs'⟩ | ⟨b, s', hsave, hs'⟩
    · exact .inr (.inl ⟨hne, e, s', by rw [hsave], hs'⟩)
    · exact .inr (.inr ⟨hne, s', by rw [hsave], hs'⟩)

theorem learnsExactly (hs : s.Backed T) (t : Transaction) (f : Fact) : t.LearnsExactly s f := by
  rcases hs.learn_cases t f with
    ⟨hsame, hlearn⟩ | ⟨hne, e, s', hlearn, hs'⟩ | ⟨hne, s', hlearn, hs'⟩
  · constructor <;> simp [hlearn, hsame]
  · have htables : s'.tables = s.tables := by rw [hs'.tables, hs.tables]
    have hload : ∀ h, Transaction.load s' h = Transaction.load s h := by
      intro h
      exact Transaction.load_congr (by rw [hs'.gets, hs.gets]) fun _ => by rw [hs'.gets, hs.gets]
    constructor <;> simp [hlearn, hne, htables, hload]
  · have htables : s'.tables = s.tables.map (·.putFact t.hash f) := by
      rw [hs'.tables, hs.tables]
      rfl
    have hload : ∀ h, h ≠ t.hash → Transaction.load s' h = Transaction.load s h := by
      intro h hh
      refine Transaction.load_congr ?_ fun tag => ?_
      · rw [hs'.gets, hs.gets, T.alike_putFact t.hash f .transaction (by decide)]
      · rw [hs'.gets, hs.gets, Tables.get?_putFact_of_ne T f fun heq => hh heq.1]
    have hkinds : ∀ g : Fact, g.tag ≠ f.tag → (t.facts.learn f).knows g = t.facts.knows g :=
      fun g hg => t.facts.knows_learn hg.symm
    constructor <;> simp [hlearn, hne, htables]
    · exact hkinds
    · exact hload

/-- A transaction that is in step stays so, whether a fact is learned or not. -/
theorem learn_inStep (hs : s.Backed T) (ht : T.InStep t) {f : Fact} (hf : f.Sized) :
    ∃ T', (t.learn s f).2.2.Backed T' ∧ T'.InStep (t.learn s f).2.1 := by
  rcases hs.learn_cases t f with ⟨-, hlearn⟩ | ⟨-, e, s', hlearn, hs'⟩ | ⟨-, s', hlearn, hs'⟩
  · rw [hlearn]
    exact ⟨T, hs, ht⟩
  · rw [hlearn]
    exact ⟨T, hs', ht⟩
  · rw [hlearn]
    exact ⟨T.putFact t.hash f, hs', ht.putFact hf⟩

end Store.Backed

/-! ## Learning several facts -/

namespace Transaction

/-- A transaction and its store once several facts were to be learned, one
    after another, whether they could be written or not. -/
def learnEach (t : Transaction) (s : Store) (fs : List Fact) : Transaction × Store :=
  fs.foldl (fun r f => (r.1.learn r.2 f).2) (t, s)

theorem hash_learn (t : Transaction) (s : Store) (f : Fact) : (t.learn s f).2.1.hash = t.hash := by
  rw [learn_transaction]

theorem learnEach_inStep {s : Store} {T : Tables} {t : Transaction} (hs : s.Backed T)
    (ht : T.InStep t) {fs : List Fact} (hfs : ∀ f ∈ fs, f.Sized) :
    ∃ T', (t.learnEach s fs).2.Backed T' ∧ T'.InStep (t.learnEach s fs).1 ∧
      (t.learnEach s fs).1.hash = t.hash := by
  induction fs generalizing t s T with
  | nil => exact ⟨T, hs, ht, rfl⟩
  | cons f fs ih =>
    obtain ⟨hf, hfs⟩ := List.forall_mem_cons.mp hfs
    obtain ⟨T₁, hs₁, ht₁⟩ := hs.learn_inStep ht hf
    obtain ⟨T₂, hs₂, ht₂, hhash⟩ := ih hs₁ ht₁ hfs
    exact ⟨T₂, hs₂, ht₂, hhash.trans (hash_learn t s f)⟩

/-- A transaction that knows its payload, of which the payload can be read and
    the hash is not null, and about which nothing was learned before, is
    stored; if a payload was under its hash before, that one can be read, too.
    Whatever facts it is then to learn, and whichever of them cannot be
    written, what is loaded has its metadata, and learning the next fact does
    exactly what it says. -/
theorem facts_stay_in_step {s s₁ : Store} {T : Tables} {t : Transaction} {b : Bool}
    (hs : s.Backed T) (hfilled : t.facts = .fresh .filled) (hvalid : Packed.Valid t.payload)
    (hnull : t.hash.isNull = false) (hbefore : T.Readable t.hash)
    (hempty : ∀ tag, (T.table .transactionMetadata).get? (Key.ofFact t.hash tag) = none)
    (hstore : t.store s = (.ok b, s₁)) {fs : List Fact} (hfs : ∀ f ∈ fs, f.Sized) :
    (t.learnEach s₁ fs).1.hash = t.hash ∧
      (t.learnEach s₁ fs).1.LoadsAlike (t.learnEach s₁ fs).2 ∧
      ∀ f, (t.learnEach s₁ fs).1.LearnsExactly (t.learnEach s₁ fs).2 f := by
  obtain ⟨T₁, hs₁, hin⟩ := hs.inStep_of_store_ok hfilled hvalid hbefore hempty hstore
  obtain ⟨T', hs', hin', hhash⟩ := learnEach_inStep hs₁ hin hfs
  exact ⟨hhash, hin'.loadsAlike hs' (by rw [hhash, hnull]), hs'.learnsExactly _⟩

/-! ### Every second write fails -/

/-- A payload of zeros under a hash that is not null. -/
def zerosAtTwo : Transaction :=
  { placeholder (Hash.ofBytes [2]) with facts := .fresh .filled }

/-- A provider in memory to which every second record cannot be written. -/
def halting : Provider :=
  { Provider.memory with faults := fun attempts op => op == .save && attempts % 2 == 1 }

/-- The first mark and the sender are not written, and the second mark is. -/
theorem facts_stay_in_step_halting :
    ∃ s₁, zerosAtTwo.store ⟨[halting]⟩ = (.ok true, s₁) ∧
      (zerosAtTwo.learnEach s₁ [.solid true, .confirmed true, .sender "10.0.0.1:1"]).1.facts =
        { Metadata.fresh .filled with confirmed := true } ∧
      (zerosAtTwo.learnEach s₁ [.solid true, .confirmed true, .sender "10.0.0.1:1"]).1.LoadsAlike
        (zerosAtTwo.learnEach s₁ [.solid true, .confirmed true, .sender "10.0.0.1:1"]).2 := by
  have hs : Store.Backed ⟨[halting]⟩ .empty := ⟨halting, rfl, ⟨fun _ => rfl, fun _ => rfl⟩, rfl⟩
  have hstore : zerosAtTwo.store ⟨[halting]⟩ =
      (.ok true, ⟨[{ halting.attempt with tables := Tables.putAll .empty zerosAtTwo.puts }]⟩) := rfl
  have hvalid : Packed.Valid zerosAtTwo.payload :=
    (Packed.unpack_ok_iff (by rw [zerosAtTwo.length_payload])).mp
      ⟨_, legible_placeholder (Hash.ofBytes [2])⟩
  refine ⟨_, hstore, rfl, ?_⟩
  exact (facts_stay_in_step hs rfl hvalid (by decide) (Tables.readable_empty _) (fun _ => rfl)
    hstore (by decide)).2.1

/-! ### Payloads that are unknown or cannot be read, and the null hash -/

/-- A placeholder is loaded as a transaction that knows its payload once it
    is stored; a transaction made of trits that are not balanced cannot be
    loaded; and what the null hash learns is never loaded. -/
theorem not_loadsAlike_unknown_unreadable_null :
    (∃ s, (placeholder (Hash.ofBytes [1])).store ⟨[Provider.memory]⟩ = (.ok true, s) ∧
      ¬ (placeholder (Hash.ofBytes [1])).LoadsAlike s) ∧
    (∃ s, (ofTrits [122]).store ⟨[Provider.memory]⟩ = (.ok true, s) ∧
      ¬ (ofTrits [122]).LoadsAlike s) ∧
    ∃ s, (placeholder .null).store ⟨[Provider.memory]⟩ = (.ok true, s) ∧
      ¬ ((placeholder .null).learnEach s [.solid true]).1.LoadsAlike
        ((placeholder .null).learnEach s [.solid true]).2 := by
  have hs : Store.Backed ⟨[Provider.memory]⟩ .empty := ⟨.memory, rfl, .fresh "memory", rfl⟩
  have hstore : ∀ t : Transaction, t.store ⟨[Provider.memory]⟩ =
      (.ok true, ⟨[{ Provider.memory.attempt with tables := Tables.putAll .empty t.puts }]⟩) :=
    fun _ => rfl
  refine ⟨⟨_, hstore _, ?_⟩, ⟨_, hstore _, ?_⟩, ⟨_, hstore _, ?_⟩⟩
  · have hvalid : Packed.Valid (placeholder (Hash.ofBytes [1])).payload :=
      (Packed.unpack_ok_iff (by rw [length_payload])).mp ⟨_, legible_placeholder _⟩
    rw [hs.loadsAlike_iff_of_store_ok hvalid (by decide) (Tables.readable_empty _) (fun _ => rfl)
      (hstore _)]
    decide
  · have hfill : fill [122] = [122, 0, 0, 0, 0] ++ List.replicate 8014 0 := rfl
    have hpayload : (ofTrits [122]).payload =
        Packed.packGroup [122, 0, 0, 0, 0] :: Packed.pack (List.replicate 8014 0) := by
      show Packed.pack (fill [122]) = _
      rw [hfill, Packed.pack_append rfl]
    have hinvalid : ¬ Packed.Valid (ofTrits [122]).payload := by
      intro hvalid
      rw [hpayload] at hvalid
      exact absurd (hvalid _ List.mem_cons_self) (by decide)
    exact hs.not_loadsAlike_of_not_valid hinvalid rfl Bool.false_ne_true (hstore _)
  · rintro ⟨u, hload, hfacts⟩
    have hnull : (placeholder .null).hash.isNull = true := by decide
    cases (if_pos hnull).symm.trans hload
    exact absurd hfacts (by decide)

end Transaction

end TernaryGossip
