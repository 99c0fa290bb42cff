import TernaryGossip.Proofs.Tangle.UnknownHeight

/-! # Payloads under their identity

    Loading does not compute the identity of a payload, so what is loaded is
    the payload of its hash only if every payload is stored under its own
    identity.

    Transactions that are decoded or built have their identity as their
    hash, and one that is loaded with its payload is stored already.  The
    placeholder of an unknown hash is stored like the others, however: its
    zeros are written under the hash, and this hash is loaded as known from
    then on. -/

namespace TernaryGossip

/-- The payload can be read, and the identity of its trits is the hash. -/
def Hash.Names (h : Hash) (payload : Bytes) : Prop :=
  ∃ ts, Packed.unpack 8019 payload = .ok ts ∧ Hash.identity ts = h

/-- Every payload is stored under its identity. -/
def Store.Addressed (s : Store) : Prop :=
  ∀ h payload, s.held .transaction (Key.ofHash h) = some payload → h.Names payload

namespace Transaction

variable {s : Store} {t : Transaction} {ts us : List Transaction} {h : Hash}

/-! ## What has its identity as its hash -/

theorem Legible.names_iff (ht : t.Legible) : h.Names t.payload ↔ Hash.identity t.trits = h := by
  constructor
  · intro hnames
    obtain ⟨ts, hread, hhash⟩ := hnames
    rw [← hhash, Except.ok.inj (ht.symm.trans hread)]
  · exact fun hhash => ⟨t.trits, ht, hhash⟩

namespace Made

theorem names (ht : t.Made) : t.hash.Names t.payload := by
  rw [ht.legible.names_iff]
  cases ht with
  | decoded hdecode => exact (decode_ok_iff.mp hdecode).2.symm
  | built _ => rfl

theorem isFilled (ht : t.Made) : t.isFilled = true := by
  rw [Transaction.isFilled, ht.facts_eq]
  rfl

end Made

/-! ## How transactions are obtained -/

/-- A transaction is obtained after others were stored, one after another:
    it is made, or it was loaded from the store as it was then or before. -/
inductive Obtained (s : Store) (ts : List Transaction) (t : Transaction) : Prop
  /-- It is made. -/
  | made (ht : t.Made)
  /-- It was loaded once the first of them were stored. -/
  | loaded {us : List Transaction} {h : Hash} (hus : us <+: ts)
      (hload : load (storeAll s us) h = .ok t)

/-- Transactions that can be stored in this order: each is obtained once the
    ones before are stored. -/
inductive Obtainable (s : Store) : List Transaction → Prop
  /-- None. -/
  | nil : Obtainable s []
  /-- One more. -/
  | concat {ts : List Transaction} {t : Transaction} (hts : Obtainable s ts)
      (ht : Obtained s ts t) : Obtainable s (ts ++ [t])

/-- A hash has its first transaction among more that are stored. -/
theorem firstOf_of_initial (hus : us <+: ts) (hfirst : firstOf us h = some t) :
    firstOf ts h = some t := by
  obtain ⟨vs, rfl⟩ := hus
  unfold firstOf at hfirst ⊢
  rw [List.find?_append, hfirst, Option.some_or]

/-- What is loaded of a hash that was stored neither at first nor since is
    its placeholder. -/
theorem Obtained.made_or_placeholder (hs : s.FaultFree) (hnew : ¬ s.Stored t.hash)
    (hnone : firstOf ts t.hash = none) (ht : Obtained s ts t) :
    t.Made ∨ t = placeholder t.hash := by
  cases ht with
  | made ht => exact .inl ht
  | @loaded us g hus hload =>
    have hshows := hs.shows_overlay
    obtain ⟨T', hs', -, hpayload⟩ := hshows.storeAll us
    rcases hs'.gets.load_ok_iff.mp hload with ⟨hplaceholder, -⟩ | ⟨-, hloads⟩
    · right
      rw [hplaceholder]
      rfl
    · -- its payload would have been stored before
      obtain rfl := hloads.hash
      have hfound := hloads.payload
      rw [hshows.stored_iff] at hnew
      rw [hpayload, Tables.get?_of_not_stored hnew, Option.none_or,
        Option.map_eq_some_iff] at hfound
      obtain ⟨u, hu, -⟩ := hfound
      rw [firstOf_of_initial hus hu] at hnone
      cases hnone

/-- The first transaction of a hash that was not stored is made, or it is
    the placeholder of the hash. -/
theorem Obtainable.made_or_placeholder (hs : s.FaultFree) (hts : Obtainable s ts)
    (hnew : ¬ s.Stored h) (hfirst : firstOf ts h = some t) : t.Made ∨ t = placeholder h := by
  induction hts with
  | nil => cases hfirst
  | @concat ts u _ hu ih =>
    rw [firstOf_concat] at hfirst
    cases hbefore : firstOf ts h with
    | some v =>
      rw [hbefore, Option.some_or] at hfirst
      obtain rfl : v = t := Option.some.inj hfirst
      exact ih hbefore
    | none =>
      rw [hbefore, Option.none_or, Option.ite_none_right_eq_some] at hfirst
      obtain ⟨rfl, hsame⟩ := hfirst
      obtain rfl := Option.some.inj hsame
      exact hu.made_or_placeholder hs hnew hbefore

/-- Over any number of fault-free providers in which every payload is stored
    under its identity, transactions are stored that were made, or loaded of
    any hash, known or unknown.  A payload that is stored then is under its
    identity exactly if it was stored before, or the first transaction that
    was stored under its hash knew its payload, or the hash is the identity
    of zeros.  The hash of a placeholder that was stored, if it is not null,
    is loaded as known, with a payload of zeros. -/
theorem addressed_unless_unknown (hs : s.FaultFree) (haddressed : s.Addressed)
    (hts : Obtainable s ts) :
    (∀ h payload, (storeAll s ts).held .transaction (Key.ofHash h) = some payload →
      (h.Names payload ↔ s.Stored h ∨ (∃ t, firstOf ts h = some t ∧ t.isFilled = true) ∨
        Hash.identity (List.replicate 8019 0) = h)) ∧
    ∀ h t m, ¬ s.Stored h → firstOf ts h = some t → t.isFilled = false → h.isNull = false →
      s.overlay.facts h = .ok m →
      ∃ u, load (storeAll s ts) h = .ok u ∧ u.isFilled = true ∧
        u.payload = List.replicate 1604 0 := by
  have hshows := hs.shows_overlay
  obtain ⟨T', hs', -, hpayload⟩ := hshows.storeAll ts
  constructor
  · intro h payload hfound
    rw [hs'.held, hpayload] at hfound
    by_cases hknown : s.Stored h
    · obtain ⟨b, hb⟩ := Option.isSome_iff_exists.mp ((hshows.stored_iff h).mp hknown)
      rw [hb, Option.some_or] at hfound
      obtain rfl := Option.some.inj hfound
      exact iff_of_true (haddressed h b (by rw [hshows.held, hb])) (.inl hknown)
    · have hnew : ¬ s.overlay.Stored h := by rwa [← hshows.stored_iff]
      rw [Tables.get?_of_not_stored hnew, Option.none_or, Option.map_eq_some_iff] at hfound
      obtain ⟨t, hfirst, rfl⟩ := hfound
      have hhash := hash_of_firstOf hfirst
      rcases hts.made_or_placeholder hs hknown hfirst with hmade | hplaceholder
      · exact iff_of_true (hhash ▸ hmade.names) (.inr (.inl ⟨t, hfirst, hmade.isFilled⟩))
      · have hzeros := (legible_placeholder h).names_iff (h := h)
        rw [hplaceholder] at hfirst ⊢
        simp only [hknown, hfirst, Option.some.injEq, false_or, exists_eq_left',
          isFilled_placeholder, Bool.false_eq_true]
        exact hzeros
  · intro h t m hnew hfirst hunknown hnull hfacts
    rcases hts.made_or_placeholder hs hnew hfirst with hmade | rfl
    · rw [hmade.isFilled] at hunknown
      cases hunknown
    · rw [hshows.stored_iff] at hnew
      obtain ⟨hloads, hload⟩ :=
        load_arrived hshows hnew hnull hfacts hfirst (legible_placeholder h)
      exact ⟨_, hload, isFilled_of_loads hloads, rfl⟩

/-! ### Two placeholders -/

/-- The placeholders of two unknown hashes, one after the other. -/
def twoUnknown : List Transaction :=
  [placeholder (Hash.ofTrits [1]), placeholder (Hash.ofTrits [-1])]

/-- Both are loaded before one of them is stored. -/
theorem obtainable_twoUnknown : Obtainable ⟨[Provider.memory]⟩ twoUnknown := by
  have hs : Store.Gets ⟨[Provider.memory]⟩ .empty := (Store.keeps_fresh "memory").gets
  have hloaded : ∀ ts h, Obtained ⟨[Provider.memory]⟩ ts (placeholder h) := by
    intro ts h
    have hnew : ¬ Tables.Stored .empty h := fun hstored => by cases hstored
    exact .loaded List.nil_prefix (hs.load_missing hnew)
  have hfirst : Obtainable ⟨[Provider.memory]⟩ [placeholder (Hash.ofTrits [1])] :=
    .concat .nil (hloaded [] _)
  exact .concat hfirst (hloaded _ _)

theorem firstOf_twoUnknown :
    firstOf twoUnknown (Hash.ofTrits [1]) = some (placeholder (Hash.ofTrits [1])) ∧
      firstOf twoUnknown (Hash.ofTrits [-1]) = some (placeholder (Hash.ofTrits [-1])) := by
  have hhash : ∀ h, (placeholder h).hash = h := fun _ => rfl
  have hne : Hash.ofTrits [1] ≠ Hash.ofTrits [-1] := by decide
  constructor
  · simp [firstOf, twoUnknown, hhash]
  · simp [firstOf, twoUnknown, hhash, hne]

theorem addressed_memory : Store.Addressed ⟨[Provider.memory]⟩ := by
  intro h payload hheld
  cases hheld

/-- The first of two unknown hashes is loaded as known. -/
theorem addressed_unless_unknown_two :
    Store.FaultFree ⟨[Provider.memory]⟩ ∧ Store.Addressed ⟨[Provider.memory]⟩ ∧
      Obtainable ⟨[Provider.memory]⟩ twoUnknown ∧
      ∃ u, load (storeAll ⟨[Provider.memory]⟩ twoUnknown) (Hash.ofTrits [1]) = .ok u ∧
        u.isFilled = true ∧ u.payload = List.replicate 1604 0 := by
  have hs := (Store.keeps_fresh "memory").faultFree
  have hnew : ¬ Store.Stored ⟨[Provider.memory]⟩ (Hash.ofTrits [1]) := by decide
  have hunknown : (placeholder (Hash.ofTrits [1])).isFilled = false := isFilled_placeholder _
  obtain ⟨-, hloads⟩ := addressed_unless_unknown hs addressed_memory obtainable_twoUnknown
  refine ⟨hs, addressed_memory, obtainable_twoUnknown, ?_⟩
  exact hloads _ _ _ hnew firstOf_twoUnknown.1 hunknown (by decide) (facts_memory _)

/-- Whatever is stored in a provider that was empty, every payload is under
    its identity. -/
def StaysAddressed : Prop :=
  ∀ s ts, s.Keeps .empty → Obtainable s ts → (storeAll s ts).Addressed

/-- The zeros are under two hashes, and have one identity. -/
theorem not_staysAddressed : ¬ StaysAddressed := by
  intro hstays
  have hs := Store.keeps_fresh "memory"
  have haddressed := hstays _ _ hs obtainable_twoUnknown
  obtain ⟨T', hs', -, hpayload⟩ := hs.shows.storeAll twoUnknown
  obtain ⟨hone, hother⟩ := firstOf_twoUnknown
  have hzeros : ∀ h, firstOf twoUnknown h = some (placeholder h) →
      Hash.identity (List.replicate 8019 0) = h := by
    intro h hfirst
    have hheld := hs'.held .transaction (Key.ofHash h)
    rw [hpayload, hfirst] at hheld
    exact (legible_placeholder h).names_iff.mp (haddressed h _ hheld)
  have hsame : Hash.ofTrits [1] = Hash.ofTrits [-1] :=
    (hzeros _ hone).symm.trans (hzeros _ hother)
  exact absurd hsame (by decide)

end Transaction

end TernaryGossip
