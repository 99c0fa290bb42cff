import TernaryGossip.Proofs.Store.Overlay
import TernaryGossip.Proofs.Store.Prefix

/-! # A layer in front of another

    An empty provider in memory is put in front of a durable one.  Every
    change is made by both, so the durable one has all records, and the one
    in front has those that were written since and not removed again.

    Look-ups of single records do not notice the front layer.  Questions for
    the first or last record of some kind, for numbers of records, and for
    lists of keys are answered by the front layer alone as soon as it has an
    answer, so they notice it: the front layer knows nothing of older
    records.  For each of them the main statement says when the answer is
    nevertheless that of the durable layer. -/

namespace TernaryGossip

/-! ## Answers of a part -/

section part
variable {α : Type}

/-- The first member of some kind of a part of a list, or else of the whole
    list, is that of the whole list if the part has it, or has none at all. -/
theorem find?_filter_or_eq_iff (has kind : α → Bool) (xs : List α) :
    (((xs.filter has).find? kind).or (xs.find? kind) = xs.find? kind) ↔
      (∀ x ∈ xs, kind x = true → has x = false) ∨
        ∃ x, xs.find? kind = some x ∧ has x = true := by
  cases hpart : (xs.filter has).find? kind with
  | none =>
    have hnone : ∀ x ∈ xs, kind x = true → has x = false := by
      intro x hx hkind
      cases hhas : has x with
      | false => rfl
      | true => exact absurd hkind (List.find?_eq_none.mp hpart x (List.mem_filter.mpr ⟨hx, hhas⟩))
    simp only [Option.none_or, true_iff]
    exact .inl hnone
  | some y =>
    obtain ⟨hy, hhas⟩ := List.mem_filter.mp (List.mem_of_find?_eq_some hpart)
    have hkind : kind y = true := List.find?_some hpart
    simp only [Option.some_or]
    constructor
    · intro heq
      exact .inr ⟨y, heq.symm, hhas⟩
    · rintro (hnone | ⟨x, hx, hhasx⟩)
      · rw [hnone y hy hkind] at hhas
        cases hhas
      · -- the first of the whole list is in the part, so it is the first there
        rw [hx, ← hpart, List.find?_filter]
        obtain ⟨hkindx, front, back, rfl, hfront⟩ := List.find?_eq_some_iff_append.mp hx
        rw [List.find?_eq_some_iff_append]
        refine ⟨by simp [hkindx, hhasx], front, back, rfl, ?_⟩
        intro z hz
        have := hfront z hz
        simp_all

theorem findSome?_pair {β : Type} (f : α → Option β) (a b : α) :
    [a, b].findSome? f = (f a).or (f b) := by
  rw [List.findSome?_cons, List.findSome?_singleton]
  cases f a <;> rfl

/-- A part of a list, or else the whole list, is the whole list if the part
    has nothing or everything. -/
theorem ite_filter_eq_iff (has : α → Bool) (xs : List α) :
    ((if (xs.filter has).isEmpty then xs else xs.filter has) = xs) ↔
      (∀ x ∈ xs, has x = false) ∨ ∀ x ∈ xs, has x = true := by
  rw [← List.filter_eq_self (p := has)]
  by_cases hempty : xs.filter has = []
  · have hnone : ∀ x ∈ xs, has x = false := by
      simpa [List.filter_eq_nil_iff] using hempty
    simp only [hempty, List.isEmpty_nil, if_true, true_iff]
    exact .inl hnone
  · have hsome : ¬ ∀ x ∈ xs, has x = false := by
      simpa [List.filter_eq_nil_iff] using hempty
    simp [hempty, hsome]

/-- No other number of members is that of the whole list. -/
theorem ite_filter_length_iff (has : α → Bool) (xs : List α) :
    (if (xs.filter has).isEmpty then xs.length else (xs.filter has).length) = xs.length ↔
      (if (xs.filter has).isEmpty then xs else xs.filter has) = xs := by
  by_cases hempty : (xs.filter has).isEmpty = true
  · simp only [hempty, if_true]
  · simp only [hempty, Bool.false_eq_true, if_false]
    exact ⟨fun h => List.filter_sublist.eq_of_length h, fun h => congrArg _ h⟩

end part

/-! ## What the front layer has -/

namespace Change

/-- The last edit of a key wrote it. -/
def Wrote (cs : List Change) (part : Partition) (key : Bytes) : Prop :=
  (Edit.final (allEdits cs) part key none).isSome = true

/-- No record of some kind is in the front layer, or the one that a question
    is answered with is. -/
def WroteAnswer (cs : List Change) (part : Partition) (kind : Bytes → Prop)
    (answer : Except StorageError (Option (Bytes × Bytes))) : Prop :=
  (∀ key, kind key → ¬ Wrote cs part key) ∨ ∃ e, answer = .ok (some e) ∧ Wrote cs part e.1

/-- No record of some kind is in the front layer, or all that a store has are. -/
def WroteNoneOrAll (cs : List Change) (part : Partition) (kind : Bytes → Prop) (s : Store) :
    Prop :=
  (∀ key, kind key → ¬ Wrote cs part key) ∨
    ∀ key, kind key → s.contains part key = .ok true → Wrote cs part key

end Change

/-- A key is there, and no key of the partition that refers to its own
    begins with it. -/
def Unreferenced (there : Partition → Bytes → Prop) (part : Partition) (key : Bytes) : Prop :=
  ∃ references, part.references = some references ∧ there part key ∧
    ∀ reference, there references reference → ¬ key <+: reference

namespace Provider

theorem mem_unreferencedKeys (T : Tables) (part : Partition) (key : Bytes) :
    key ∈ unreferencedKeys T part ↔
      Unreferenced (fun q k => (T.table q).contains k = true) part key := by
  unfold unreferencedKeys Unreferenced
  cases part.references with
  | none => simp
  | some references =>
    simp [List.mem_filter, ← OrderedMap.contains_iff_mem_keys, List.isEmpty_iff, keysFrom_eq_nil]

theorem pairwise_unreferencedKeys (T : Tables) (part : Partition) :
    (unreferencedKeys T part).Pairwise fun a b => compare a b = .lt := by
  unfold unreferencedKeys
  cases part.references with
  | none => exact .nil
  | some references => exact (OrderedMap.sorted_keys _).filter _

end Provider

namespace Tables

/-- What changes leave in empty tables is part of what they leave in any. -/
theorem part_changed (T : Tables) (cs : List Change) (part : Partition) :
    ((Tables.changed .empty cs).table part).Part ((T.changed cs).table part) := by
  intro key value hvalue
  rw [get?_changed] at hvalue ⊢
  exact (Edit.final_eq_some_iff _ _ _ _ _).mpr (.inl hvalue)

theorem contains_changed_empty (cs : List Change) (part : Partition) (key : Bytes) :
    ((Tables.changed .empty cs).table part).contains key = true ↔ Change.Wrote cs part key := by
  rw [OrderedMap.contains, get?_changed]
  rfl

theorem not_contains_changed_empty (cs : List Change) (part : Partition) (key : Bytes) :
    ((Tables.changed .empty cs).table part).contains key = false ↔ ¬ Change.Wrote cs part key := by
  rw [← contains_changed_empty, Bool.not_eq_true]

/-- What is in the front layer is in the layer behind it. -/
theorem contains_of_wrote (T : Tables) {cs : List Change} {part : Partition} {key : Bytes}
    (h : Change.Wrote cs part key) : ((T.changed cs).table part).contains key = true := by
  obtain ⟨value, hvalue⟩ := Option.isSome_iff_exists.mp ((contains_changed_empty cs part key).mpr h)
  rw [OrderedMap.contains, part_changed T cs part key value hvalue]
  rfl

end Tables

namespace Store

/-- A layer in memory in front of a durable provider. -/
def fronted (d : Provider) : Store := ⟨[Provider.memory, d]⟩

/-- A durable provider alone. -/
def alone (d : Provider) : Store := ⟨[d]⟩

section fronted
variable {d : Provider} (hd : d.FaultFree) (cs : List Change)
include hd

theorem faultFree_fronted : (fronted d).FaultFree := .two ⟨fun _ _ => rfl, rfl⟩ hd

theorem faultFree_alone : (alone d).FaultFree := .one hd

theorem fronted_changeAll :
    (fronted d).changeAll cs = ⟨[Provider.memory.changed cs, d.changed cs]⟩ ∧
      ((fronted d).changeAll cs).FaultFree :=
  (faultFree_fronted hd).changeAll cs

theorem alone_changeAll :
    (alone d).changeAll cs = ⟨[d.changed cs]⟩ ∧ ((alone d).changeAll cs).FaultFree :=
  (faultFree_alone hd).changeAll cs

/-! ## Single records -/

/-- Without the front layer a look-up finds the same. -/
theorem held_fronted (part : Partition) (key : Bytes) :
    ((fronted d).changeAll cs).held part key = ((alone d).changeAll cs).held part key := by
  rw [(faultFree_fronted hd).held_changeAll, (faultFree_alone hd).held_changeAll]
  rfl

theorem contains_alone (part : Partition) (key : Bytes) :
    ((alone d).changeAll cs).contains part key = .ok true ↔
      ((d.tables.changed cs).table part).contains key = true := by
  obtain ⟨heq, hfree⟩ := alone_changeAll hd cs
  rw [hfree.contains, heq, List.any_cons, List.any_nil, Bool.or_false, Except.ok.injEq]
  rfl

/-! ## The first record of some kind -/

/-- A question for the first record of some kind, or for the last. -/
inductive Picks (pick : Table → Option (Bytes × Bytes)) (kind : Bytes → Bool) : Prop
  /-- The first one is asked for. -/
  | first (h : ∀ t, pick t = t.entries.find? fun e => kind e.1)
  /-- The last one is asked for. -/
  | last (h : ∀ t, pick t = t.entries.reverse.find? fun e => kind e.1)

omit hd in
/-- The front layer answers if it can, else the layer behind it. -/
theorem or_find?_eq_iff (d : Provider) {part : Partition} {es : List (Bytes × Bytes)}
    (hes : ∀ e, e ∈ es ↔ e ∈ ((d.tables.changed cs).table part).entries) (kind : Bytes → Bool) :
    (((es.filter fun e => ((Tables.changed .empty cs).table part).contains e.1).find?
        fun e => kind e.1).or (es.find? fun e => kind e.1) = es.find? fun e => kind e.1) ↔
      Change.WroteAnswer cs part (kind · = true) (.ok (es.find? fun e => kind e.1)) := by
  rw [find?_filter_or_eq_iff, Change.WroteAnswer]
  simp only [Tables.not_contains_changed_empty, Tables.contains_changed_empty, Except.ok.injEq]
  refine or_congr_left ⟨fun h key hkind hwrote => ?_, fun h e _ hkind => h e.1 hkind⟩
  -- a key that was written is that of an entry
  have hthere := Tables.contains_of_wrote d.tables hwrote
  obtain ⟨value, hvalue⟩ := (OrderedMap.contains_iff _ _).mp hthere
  exact h (key, value) ((hes _).mpr hvalue) hkind hwrote

omit hd in
theorem Picks.or_eq_iff {pick : Table → Option (Bytes × Bytes)} {kind : Bytes → Bool}
    (h : Picks pick kind) (d : Provider) (part : Partition) :
    ((pick ((Tables.changed .empty cs).table part)).or
        (pick ((d.tables.changed cs).table part)) = pick ((d.tables.changed cs).table part)) ↔
      Change.WroteAnswer cs part (kind · = true)
        (.ok (pick ((d.tables.changed cs).table part))) := by
  have hentries := (d.tables.part_changed cs part).entries_eq
  cases h with
  | first h =>
    rw [h, h, hentries]
    exact or_find?_eq_iff cs d (fun _ => Iff.rfl) kind
  | last h =>
    rw [h, h, hentries, ← List.filter_reverse]
    exact or_find?_eq_iff cs d (fun _ => List.mem_reverse) kind

/-- Every question for a first or last record goes to the layers in turn. -/
theorem fronted_iff_of_picks {pick : Table → Option (Bytes × Bytes)} {kind : Bytes → Bool}
    (h : Picks pick kind) (part : Partition)
    {ask : Store → Except StorageError (Option (Bytes × Bytes))}
    (hask : ∀ s : Store, s.FaultFree →
      ask s = .ok (s.providers.findSome? fun p => pick (p.tables.table part))) :
    ask ((fronted d).changeAll cs) = ask ((alone d).changeAll cs) ↔
      Change.WroteAnswer cs part (kind · = true) (ask ((alone d).changeAll cs)) := by
  obtain ⟨hs, hsfree⟩ := fronted_changeAll hd cs
  obtain ⟨ht, htfree⟩ := alone_changeAll hd cs
  have hfront : ask ((fronted d).changeAll cs) =
      .ok ((pick ((Tables.changed .empty cs).table part)).or
        (pick ((d.tables.changed cs).table part))) := by
    rw [hask _ hsfree, hs, findSome?_pair]
    rfl
  have hback : ask ((alone d).changeAll cs) = .ok (pick ((d.tables.changed cs).table part)) := by
    rw [hask _ htfree, ht, List.findSome?_singleton]
    rfl
  rw [hfront, hback, Except.ok.injEq]
  exact h.or_eq_iff cs d part

theorem first_fronted (part : Partition) :
    ((fronted d).changeAll cs).first part = ((alone d).changeAll cs).first part ↔
      Change.WroteAnswer cs part (fun _ => True) (((alone d).changeAll cs).first part) := by
  have hpicks : Picks OrderedMap.first? fun _ => true := by
    refine .first fun t => ?_
    rw [OrderedMap.first?, ← List.head?_filter, List.filter_true]
  have := fronted_iff_of_picks hd cs hpicks part fun s hs => hs.first part
  simpa only [eq_self] using this

theorem last_fronted (part : Partition) :
    ((fronted d).changeAll cs).last part = ((alone d).changeAll cs).last part ↔
      Change.WroteAnswer cs part (fun _ => True) (((alone d).changeAll cs).last part) := by
  have hpicks : Picks OrderedMap.last? fun _ => true := by
    refine .last fun t => ?_
    rw [OrderedMap.last?, ← List.getLast?_filter, List.filter_true]
  have := fronted_iff_of_picks hd cs hpicks part fun s hs => hs.last part
  simpa only [eq_self] using this

theorem next_fronted (part : Partition) (key : Bytes) :
    ((fronted d).changeAll cs).next part key = ((alone d).changeAll cs).next part key ↔
      Change.WroteAnswer cs part (compare key · = .lt)
        (((alone d).changeAll cs).next part key) := by
  have hpicks : Picks (OrderedMap.next? · key) fun k => compare key k == .lt := .first fun _ => rfl
  have := fronted_iff_of_picks hd cs hpicks part fun s hs => hs.next part key
  simpa only [beq_iff_eq] using this

theorem previous_fronted (part : Partition) (key : Bytes) :
    ((fronted d).changeAll cs).previous part key = ((alone d).changeAll cs).previous part key ↔
      Change.WroteAnswer cs part (compare · key = .lt)
        (((alone d).changeAll cs).previous part key) := by
  have hpicks : Picks (OrderedMap.previous? · key) fun k => compare k key == .lt :=
    .last fun t => t.previous?_eq_find? key
  have := fronted_iff_of_picks hd cs hpicks part fun s hs => hs.previous part key
  simpa only [beq_iff_eq] using this

/-! ## All records of some kind -/

/-- Every question for several records goes to the first layer that has some. -/
theorem listed_fronted {α : Type} (isEmpty : α → Bool) {empty : α} (list : Tables → α)
    (hempty : ∀ a, isEmpty a = true → a = empty) {ask : Store → Except StorageError α}
    (hask : ∀ s : Store, s.FaultFree → ask s = .ok ((s.providers.findSome? fun p =>
      if isEmpty (list p.tables) then none else some (list p.tables)).getD empty)) :
    ask ((fronted d).changeAll cs) =
        .ok (if isEmpty (list (Tables.changed .empty cs)) then list (d.tables.changed cs)
          else list (Tables.changed .empty cs)) ∧
      ask ((alone d).changeAll cs) = .ok (list (d.tables.changed cs)) := by
  obtain ⟨hs, hsfree⟩ := fronted_changeAll hd cs
  obtain ⟨ht, htfree⟩ := alone_changeAll hd cs
  have hback : (if isEmpty (list (d.tables.changed cs)) then none
      else some (list (d.tables.changed cs))).getD empty = list (d.tables.changed cs) :=
    getD_unlessEmpty isEmpty _ (hempty _)
  constructor
  · rw [hask _ hsfree, hs, findSome?_pair]
    show Except.ok (((if isEmpty (list (Tables.changed .empty cs)) then none
      else some (list (Tables.changed .empty cs))).or
        (if isEmpty (list (d.tables.changed cs)) then none
          else some (list (d.tables.changed cs)))).getD empty) = _
    by_cases h : isEmpty (list (Tables.changed .empty cs)) = true
    · rw [if_pos h, if_pos h, Option.none_or, hback]
    · rw [if_neg h, if_neg h, Option.some_or, Option.getD_some]
  · rw [hask _ htfree, ht, List.findSome?_singleton]
    exact congrArg _ hback

/-- What the front layer has of the keys of some kind, said of the records. -/
theorem wroteNoneOrAll_iff (part : Partition) (kind : Bytes → Bool) :
    Change.WroteNoneOrAll cs part (kind · = true) ((alone d).changeAll cs) ↔
      (∀ key ∈ ((d.tables.changed cs).table part).keys.filter kind,
          ((Tables.changed .empty cs).table part).contains key = false) ∨
        ∀ key ∈ ((d.tables.changed cs).table part).keys.filter kind,
          ((Tables.changed .empty cs).table part).contains key = true := by
  simp only [Change.WroteNoneOrAll, contains_alone hd, List.mem_filter,
    ← OrderedMap.contains_iff_mem_keys, Tables.not_contains_changed_empty,
    Tables.contains_changed_empty, and_imp]
  refine or_congr ⟨fun h key _ hkind => h key hkind, fun h key hkind hwrote => ?_⟩
    ⟨fun h key hthere hkind => h key hkind hthere, fun h key hkind hthere => h key hthere hkind⟩
  exact h key (Tables.contains_of_wrote d.tables hwrote) hkind hwrote

theorem count_fronted (part : Partition) :
    ((fronted d).changeAll cs).count part = ((alone d).changeAll cs).count part ↔
      Change.WroteNoneOrAll cs part (fun _ => True) ((alone d).changeAll cs) := by
  have hsize : ∀ t : Table, t.size = t.keys.length := fun t => List.length_map _ |>.symm
  obtain ⟨hfront, hback⟩ := listed_fronted hd cs (· == 0)
    (fun T => (T.table part).size) (fun n hn => by simpa using hn)
    fun s hs => hs.count part
  have hkeys := (d.tables.part_changed cs part).keys_eq
  have hlist := wroteNoneOrAll_iff hd cs part fun _ => true
  simp only [eq_self, List.filter_true] at hlist
  rw [hlist, ← ite_filter_eq_iff, ← ite_filter_length_iff, hfront, hback, Except.ok.injEq, ← hkeys]
  simp only [hsize, List.isEmpty_iff_length_eq_zero, beq_iff_eq]

theorem keys_fronted (part : Partition) (start : Bytes) :
    ((fronted d).changeAll cs).keys part start = ((alone d).changeAll cs).keys part start ↔
      Change.WroteNoneOrAll cs part (start <+: ·) ((alone d).changeAll cs) := by
  obtain ⟨hfront, hback⟩ := listed_fronted hd cs List.isEmpty
    (fun T => Provider.keysFrom (T.table part) start)
    (fun xs hxs => List.isEmpty_iff.mp hxs) fun s hs => hs.keys part start
  have hkeys : Provider.keysFrom ((Tables.changed .empty cs).table part) start =
      (Provider.keysFrom ((d.tables.changed cs).table part) start).filter
        ((Tables.changed .empty cs).table part).contains := by
    rw [Provider.keysFrom_eq_filter, Provider.keysFrom_eq_filter,
      (d.tables.part_changed cs part).keys_eq, List.filter_comm]
  have hlist := wroteNoneOrAll_iff hd cs part (start.isPrefixOf ·)
  simp only [List.isPrefixOf_iff_prefix] at hlist
  rw [hlist, ← ite_filter_eq_iff, hfront, hback, Except.ok.injEq, hkeys,
    Provider.keysFrom_eq_filter]

theorem unreferenced_fronted (part : Partition) :
    ((fronted d).changeAll cs).unreferenced part = ((alone d).changeAll cs).unreferenced part ↔
      (∀ key, ¬ Unreferenced (Change.Wrote cs) part key) ∨
        ∀ key, Unreferenced (Change.Wrote cs) part key ↔
          Unreferenced (fun q k => ((alone d).changeAll cs).contains q k = .ok true) part key := by
  obtain ⟨hfront, hback⟩ := listed_fronted hd cs List.isEmpty
    (fun T => Provider.unreferencedKeys T part)
    (fun xs hxs => List.isEmpty_iff.mp hxs) fun s hs => hs.unreferenced part
  have hwrote : ∀ key, Unreferenced (Change.Wrote cs) part key ↔
      key ∈ Provider.unreferencedKeys (Tables.changed .empty cs) part := by
    intro key
    simp only [Provider.mem_unreferencedKeys, Tables.contains_changed_empty]
  have hthere : ∀ key,
      Unreferenced (fun q k => ((alone d).changeAll cs).contains q k = .ok true) part key ↔
        key ∈ Provider.unreferencedKeys (d.tables.changed cs) part := by
    intro key
    simp only [Provider.mem_unreferencedKeys, contains_alone hd]
  rw [hfront, hback, Except.ok.injEq]
  simp only [hwrote, hthere]
  constructor
  · intro h
    by_cases hnone : Provider.unreferencedKeys (Tables.changed .empty cs) part = []
    · exact .inl fun key => by rw [hnone]; exact List.not_mem_nil
    · rw [if_neg (by simpa using hnone)] at h
      exact .inr fun key => by rw [h]
  · rintro (hnone | hsame)
    · rw [if_pos (List.isEmpty_iff.mpr (List.eq_nil_iff_forall_not_mem.mpr hnone))]
    · -- two lists of keys in their order, with the same keys
      have heq := OrderedMap.eq_of_ascending id (Provider.pairwise_unreferencedKeys _ part)
        (Provider.pairwise_unreferencedKeys _ part) hsame
      rw [heq, ite_self]

end fronted

/-! ## All questions -/

/-- Two stores give the same answer to every question for records. -/
structure AnswersAlike (s t : Store) : Prop where
  get : ∀ part key, s.get part key = t.get part key
  contains : ∀ part key, s.contains part key = t.contains part key
  first : ∀ part, s.first part = t.first part
  last : ∀ part, s.last part = t.last part
  next : ∀ part key, s.next part key = t.next part key
  previous : ∀ part key, s.previous part key = t.previous part key
  count : ∀ part, s.count part = t.count part
  keys : ∀ part start, s.keys part start = t.keys part start
  unreferenced : ∀ part, s.unreferenced part = t.unreferenced part

/-- The durable provider behind a layer in memory has the records it has
    alone, and every single record is found as without the layer.  Any other
    question has the same answer exactly if the layer has no record that
    could answer it, or has the durable provider's answer, or all of it.
    The layer has those records whose last edit wrote them. -/
theorem fronted_answers {d : Provider} (hd : d.FaultFree) (cs : List Change) :
    let s := (fronted d).changeAll cs
    let t := (alone d).changeAll cs
    s.providers.tail = t.providers ∧
    (∀ part key, (∃ front, s.providers.head? = some front ∧ front.Has part key) ↔
      Change.Wrote cs part key) ∧
    (∀ part key, s.get part key = t.get part key ∧ s.contains part key = t.contains part key) ∧
    (∀ part, s.first part = t.first part ↔
      Change.WroteAnswer cs part (fun _ => True) (t.first part)) ∧
    (∀ part, s.last part = t.last part ↔
      Change.WroteAnswer cs part (fun _ => True) (t.last part)) ∧
    (∀ part key, s.next part key = t.next part key ↔
      Change.WroteAnswer cs part (compare key · = .lt) (t.next part key)) ∧
    (∀ part key, s.previous part key = t.previous part key ↔
      Change.WroteAnswer cs part (compare · key = .lt) (t.previous part key)) ∧
    (∀ part, s.count part = t.count part ↔ Change.WroteNoneOrAll cs part (fun _ => True) t) ∧
    (∀ part start, s.keys part start = t.keys part start ↔
      Change.WroteNoneOrAll cs part (start <+: ·) t) ∧
    ∀ part, s.unreferenced part = t.unreferenced part ↔
      (∀ key, ¬ Unreferenced (Change.Wrote cs) part key) ∨
        ∀ key, Unreferenced (Change.Wrote cs) part key ↔
          Unreferenced (fun q k => t.contains q k = .ok true) part key := by
  intro s t
  obtain ⟨hs, hsfree⟩ := fronted_changeAll hd cs
  obtain ⟨ht, htfree⟩ := alone_changeAll hd cs
  refine ⟨?_, fun part key => ?_, fun part key => ⟨?_, ?_⟩, first_fronted hd cs, last_fronted hd cs,
    next_fronted hd cs, previous_fronted hd cs, count_fronted hd cs, keys_fronted hd cs,
    unreferenced_fronted hd cs⟩
  · show ((fronted d).changeAll cs).providers.tail = ((alone d).changeAll cs).providers
    rw [hs, ht, List.tail_cons]
  · rw [← Tables.contains_changed_empty]
    show (∃ front, ((fronted d).changeAll cs).providers.head? = some front ∧ _) ↔ _
    rw [hs]
    constructor
    · rintro ⟨front, hfront, hhas⟩
      rw [← Option.some.inj hfront] at hhas
      exact hhas
    · intro hhas
      exact ⟨_, rfl, hhas⟩
  · rw [hsfree.get_eq_held, htfree.get_eq_held, held_fronted hd]
  · rw [hsfree.contains_eq_held, htfree.contains_eq_held, held_fronted hd]

/-- A database with an older milestone. -/
def older : Provider :=
  { Provider.database with tables := Tables.put .empty .milestone [1] [10] }

theorem faultFree_older : older.FaultFree := ⟨fun _ _ => rfl, rfl⟩

/-- With a newer milestone written, the older one is still found, and the
    layer answers for the last milestone as the database does. -/
theorem fronted_answers_older :
    let cs : List Change := [.save .milestone [2] [11]]
    older.FaultFree ∧
      ((fronted older).changeAll cs).get .milestone [1] =
        ((alone older).changeAll cs).get .milestone [1] ∧
      ((fronted older).changeAll cs).last .milestone =
        ((alone older).changeAll cs).last .milestone := by
  intro cs
  have h := fronted_answers faultFree_older cs
  refine ⟨faultFree_older, (h.2.2.1 .milestone [1]).1, ?_⟩
  exact (h.2.2.2.2.1 .milestone).mpr (.inr ⟨([2], [11]), rfl, rfl⟩)

/-- The layer answers for the first milestone with the newer one, the only
    one that it has. -/
theorem not_fronted_answersAlike :
    ¬ ∀ (d : Provider) (cs : List Change), d.FaultFree →
      AnswersAlike ((fronted d).changeAll cs) ((alone d).changeAll cs) := by
  intro h
  have hfirst := (h older [.save .milestone [2] [11]] faultFree_older).first .milestone
  have hnewer : ((fronted older).changeAll [.save .milestone [2] [11]]).first .milestone =
      .ok (some ([2], [11])) := rfl
  have holder : ((alone older).changeAll [.save .milestone [2] [11]]).first .milestone =
      .ok (some ([1], [10])) := rfl
  rw [hnewer, holder] at hfirst
  cases hfirst

end Store

end TernaryGossip
