import TernaryGossip.Proofs.OrderedMap
import TernaryGossip.Store.Basic

/-! # The content of a store

    What a store holds after an operation, in three settings.

    * Any providers, any faults: `Holds` says that some provider has a
      record under a key.  Operations that write do not take records away,
      and one that succeeds has written to every provider.
    * Fault-free providers: every operation succeeds.  A reading operation
      gives the first answer among the tables of the providers, and each
      provider makes every change.
    * One fault-free provider: `Keeps` says which tables it has.  Every
      operation is then the operation on the tables. -/

namespace TernaryGossip

/-! ## Tables -/

namespace Tables

/-- The tables once several records are put into them, one after another. -/
def putAll (T : Tables) (rs : List Put) : Tables :=
  rs.foldl (fun t r => t.put r.partition r.key r.value) T

@[simp] theorem putAll_nil (T : Tables) : T.putAll [] = T := rfl

@[simp] theorem putAll_cons (T : Tables) (r : Put) (rs : List Put) :
    T.putAll (r :: rs) = (T.put r.partition r.key r.value).putAll rs := rfl

theorem contains_put (T : Tables) (r : Put) (part : Partition) (key : Bytes) :
    ((T.put r.partition r.key r.value).table part).contains key = true ↔
      (r.partition = part ∧ r.key = key) ∨ (T.table part).contains key = true := by
  by_cases h : part = r.partition
  · -- the table that is written to
    subst h
    rw [table_put_self, OrderedMap.contains_insert, eq_comm (a := key)]
    simp
  · have h' : ¬ r.partition = part := fun he => h he.symm
    simp [table_put_of_ne T r.key r.value h, h']

theorem contains_putAll (T : Tables) (rs : List Put) (part : Partition) (key : Bytes) :
    ((T.putAll rs).table part).contains key = true ↔
      (∃ r ∈ rs, r.partition = part ∧ r.key = key) ∨ (T.table part).contains key = true := by
  induction rs generalizing T with
  | nil => simp
  | cons r rs ih =>
    rw [putAll_cons, ih, contains_put]
    simp only [List.mem_cons, exists_eq_or_imp]
    rw [← or_assoc, or_comm (a := ∃ x ∈ rs, _)]

end Tables

/-! ## Any providers -/

namespace Provider

/-- A provider has a record under a key. -/
def Has (p : Provider) (part : Partition) (key : Bytes) : Prop :=
  (p.tables.table part).contains key = true

@[simp] theorem attempt_has (p : Provider) (part : Partition) (key : Bytes) :
    p.attempt.Has part key ↔ p.Has part key := Iff.rfl

theorem has_saveAll (p : Provider) (rs : List Put) {part : Partition} {key : Bytes}
    (h : p.Has part key) : (p.saveAll rs).2.Has part key := by
  unfold saveAll
  split
  · exact h
  · exact (Tables.contains_putAll p.tables rs part key).mpr (.inr h)

theorem has_save (p : Provider) (r : Put) {part : Partition} {key : Bytes}
    (h : p.Has part key) : (p.save r).2.Has part key := by
  unfold save
  split
  · exact h
  · exact (Tables.contains_put p.tables r part key).mpr (.inr h)

theorem has_of_saveAll_ok {p : Provider} {rs : List Put} {b : Bool} {r : Put}
    (hok : (p.saveAll rs).1 = .ok b) (hr : r ∈ rs) :
    (p.saveAll rs).2.Has r.partition r.key := by
  unfold saveAll at hok ⊢
  split at hok
  · cases hok
  · next hf =>
    rw [if_neg hf]
    exact (Tables.contains_putAll p.tables rs r.partition r.key).mpr (.inl ⟨r, hr, rfl, rfl⟩)

theorem has_of_contains_ok {p : Provider} {part : Partition} {key : Bytes}
    (h : p.contains part key = .ok true) : p.Has part key := by
  unfold contains reading at h
  split at h
  · cases h
  · exact Except.ok.inj h

end Provider

namespace Store

/-- Some provider of a store has a record under a key. -/
def Holds (s : Store) (part : Partition) (key : Bytes) : Prop :=
  ∃ p ∈ s.providers, p.Has part key

section everywhere
variable {α : Type} {change : Provider → Except StorageError α × Provider}

variable (change) in
/-- A provider is changed, or it stands behind one that failed. -/
theorem mem_everywhere {p : Provider} :
    ∀ {ps : List Provider}, p ∈ ps →
      p ∈ (everywhere change ps).2 ∨ (change p).2 ∈ (everywhere change ps).2
  | q :: qs, h => by
    unfold everywhere
    rcases List.mem_cons.mp h with rfl | h
    · -- the first provider is always tried
      split
      · next hq => simp [hq]
      · next hq => simp [hq]
    · -- the others are left alone if the first one fails
      split
      · exact .inl (List.mem_cons_of_mem _ h)
      · rcases mem_everywhere h with h' | h'
        · exact .inl (List.mem_cons_of_mem _ h')
        · exact .inr (List.mem_cons_of_mem _ h')

/-- Only a change of a first provider makes an answer. -/
theorem exists_of_everywhere_some {a : α} {ps : List Provider}
    (h : (everywhere change ps).1 = .ok (some a)) :
    ∃ p, (change p).1 = .ok a ∧ (change p).2 ∈ (everywhere change ps).2 := by
  cases ps with
  | nil => cases h
  | cons q qs =>
    unfold everywhere at h ⊢
    cases hq : change q with
    | mk answer q' =>
      cases answer with
      | error e => simp [hq] at h
      | ok b =>
        simp only [hq] at h ⊢
        cases hrest : (everywhere change qs).1 with
        | error e => simp [hrest, Except.map] at h
        | ok rest =>
          simp only [hrest, Except.map, Except.ok.injEq, Option.some.injEq] at h
          exact ⟨q, by rw [hq, h], by rw [hq]; exact List.mem_cons_self⟩

theorem providers_changing (s : Store) :
    (s.changing change).2.providers = (everywhere change s.providers).2 := by
  unfold changing
  split <;> simp_all

theorem everywhere_of_changing_ok {s : Store} {a : α} (h : (s.changing change).1 = .ok a) :
    (everywhere change s.providers).1 = .ok (some a) := by
  unfold changing at h
  split at h <;> simp_all

theorem holds_changing {s : Store} {part : Partition} {key : Bytes}
    (hkeep : ∀ p : Provider, p.Has part key → (change p).2.Has part key)
    (h : s.Holds part key) : (s.changing change).2.Holds part key := by
  obtain ⟨p, hp, hhas⟩ := h
  unfold Holds
  rw [providers_changing]
  rcases mem_everywhere change hp with h' | h'
  · exact ⟨p, h', hhas⟩
  · exact ⟨_, h', hkeep p hhas⟩

end everywhere

theorem holds_saveAll {s : Store} (rs : List Put) {part : Partition} {key : Bytes}
    (h : s.Holds part key) : (s.saveAll rs).2.Holds part key :=
  holds_changing (fun p hp => p.has_saveAll rs hp) h

theorem holds_save {s : Store} (q : Partition) (k v : Bytes) {part : Partition} {key : Bytes}
    (h : s.Holds part key) : (s.save q k v).2.Holds part key :=
  holds_changing (fun p hp => p.has_save ⟨q, k, v⟩ hp) h

/-- What was written with success is held. -/
theorem holds_of_saveAll_ok {s : Store} {rs : List Put} {b : Bool} {r : Put}
    (hok : (s.saveAll rs).1 = .ok b) (hr : r ∈ rs) :
    (s.saveAll rs).2.Holds r.partition r.key := by
  obtain ⟨p, hp, hmem⟩ := exists_of_everywhere_some (everywhere_of_changing_ok hok)
  refine ⟨_, ?_, Provider.has_of_saveAll_ok hp hr⟩
  rw [saveAll, providers_changing]
  exact hmem

theorem exists_of_anyTrue {ask : Provider → Except StorageError Bool} :
    ∀ {ps : List Provider}, anyTrue ask ps = .ok true → ∃ p ∈ ps, ask p = .ok true
  | p :: ps, h => by
    unfold anyTrue at h
    split at h
    · cases h
    · next hp => exact ⟨p, List.mem_cons_self, hp⟩
    · obtain ⟨q, hq, hask⟩ := exists_of_anyTrue h
      exact ⟨q, List.mem_cons_of_mem _ hq, hask⟩

theorem holds_of_contains_ok {s : Store} {part : Partition} {key : Bytes}
    (h : s.contains part key = .ok true) : s.Holds part key := by
  unfold contains asking at h
  split at h
  · cases h
  · obtain ⟨p, hp, hask⟩ := exists_of_anyTrue h
    exact ⟨p, hp, Provider.has_of_contains_ok hask⟩

end Store

/-! ## Fault-free providers -/

/-- No operation of a provider ever fails, and it confirms what it writes. -/
structure Provider.FaultFree (p : Provider) : Prop where
  never_fails : ∀ attempts op, p.faults attempts op = false
  confirms : p.confirms = true

namespace Provider.FaultFree

variable {p : Provider} (h : p.FaultFree)
include h

theorem fails (op : Operation) : p.fails op = false := h.never_fails _ _

theorem reading {α : Type} (op : Operation) (a : α) : p.reading op a = .ok a := by
  simp [Provider.reading, h.fails]

theorem saveAll (rs : List Put) :
    p.saveAll rs = (.ok true, { p.attempt with tables := p.tables.putAll rs }) := by
  simp [Provider.saveAll, h.fails, h.confirms, Tables.putAll]

theorem save (r : Put) :
    p.save r =
      (.ok true, { p.attempt with tables := p.tables.put r.partition r.key r.value }) := by
  simp [Provider.save, h.fails, h.confirms]

theorem delete (part : Partition) (key : Bytes) :
    p.delete part key = (.ok (), { p.attempt with tables := p.tables.remove part key }) := by
  simp [Provider.delete, h.fails]

theorem withTables (T : Tables) : ({ p.attempt with tables := T } : Provider).FaultFree :=
  ⟨h.never_fails, h.confirms⟩

end Provider.FaultFree

theorem Provider.faultFree_fresh (name : String) : (Provider.fresh name).FaultFree :=
  ⟨fun _ _ => rfl, rfl⟩

namespace Store

/-- A change that every provider makes succeeds with the answer of the first. -/
theorem everywhere_of_forall {α : Type} {change : Provider → Except StorageError α × Provider}
    {answer : Provider → α} {after : Provider → Provider} {ps : List Provider}
    (h : ∀ p ∈ ps, change p = (.ok (answer p), after p)) :
    everywhere change ps = (.ok (ps.head?.map answer), ps.map after) := by
  induction ps with
  | nil => rfl
  | cons p ps ih =>
    have hp := h p List.mem_cons_self
    have hps := ih fun q hq => h q (List.mem_cons_of_mem p hq)
    simp only [everywhere, hp, hps, Except.map, List.head?_cons, Option.map_some, List.map_cons]

theorem changing_of_forall {α : Type} (change : Provider → Except StorageError α × Provider)
    {a : α} {after : Provider → Provider} {s : Store} (hsome : s.providers ≠ [])
    (h : ∀ p ∈ s.providers, change p = (.ok a, after p)) :
    s.changing change = (.ok a, ⟨s.providers.map after⟩) := by
  obtain ⟨p, ps, hps⟩ := List.exists_cons_of_ne_nil hsome
  have heverywhere := everywhere_of_forall h
  rw [hps, List.head?_cons, Option.map_some] at heverywhere
  simp only [changing, hps, heverywhere]

theorem firstSome_of_forall {α : Type} {ask : Provider → Except StorageError (Option α)}
    {answer : Provider → Option α} {ps : List Provider} (hask : ∀ p ∈ ps, ask p = .ok (answer p)) :
    firstSome ask ps = .ok (ps.findSome? answer) := by
  induction ps with
  | nil => rfl
  | cons p ps ih =>
    have hps := ih fun q hq => hask q (List.mem_cons_of_mem p hq)
    rw [firstSome, hask p List.mem_cons_self, List.findSome?_cons]
    cases answer p with
    | none => exact hps
    | some a => rfl

theorem anyTrue_of_forall {ask : Provider → Except StorageError Bool} {answer : Provider → Bool}
    {ps : List Provider} (hask : ∀ p ∈ ps, ask p = .ok (answer p)) :
    anyTrue ask ps = .ok (ps.any answer) := by
  induction ps with
  | nil => rfl
  | cons p ps ih =>
    have hps := ih fun q hq => hask q (List.mem_cons_of_mem p hq)
    rw [anyTrue, hask p List.mem_cons_self, List.any_cons]
    cases answer p with
    | false => exact hps
    | true => rfl

/-- Every provider of a store is fault-free, and there is one. -/
structure FaultFree (s : Store) : Prop where
  providers_ne_nil : s.providers ≠ []
  faultFree : ∀ p ∈ s.providers, p.FaultFree

theorem FaultFree.two {p q : Provider} (hp : p.FaultFree) (hq : q.FaultFree) :
    FaultFree ⟨[p, q]⟩ where
  providers_ne_nil := List.cons_ne_nil _ _
  faultFree := by
    intro x hx
    rcases List.mem_cons.mp hx with rfl | hx
    · exact hp
    · rw [List.mem_singleton.mp hx]
      exact hq

theorem FaultFree.one {p : Provider} (hp : p.FaultFree) : FaultFree ⟨[p]⟩ where
  providers_ne_nil := List.cons_ne_nil _ _
  faultFree := fun x hx => by rw [List.mem_singleton.mp hx]; exact hp

/-- An empty answer does not count, and the empty answer takes its place. -/
theorem getD_unlessEmpty {α : Type} (isEmpty : α → Bool) {empty : α} (a : α)
    (hempty : isEmpty a = true → a = empty) :
    (if isEmpty a then none else some a).getD empty = a := by
  by_cases ha : isEmpty a = true
  · rw [if_pos ha, ← hempty ha]
    rfl
  · rw [if_neg ha]
    rfl

namespace FaultFree

variable {s : Store} (h : s.FaultFree)
include h

theorem asking {α : Type} (answer : Except StorageError α) : s.asking answer = answer := by
  simp [Store.asking, h.providers_ne_nil]

/-- The first provider with an answer gives it. -/
theorem asking_firstSome {α : Type} {ask : Provider → Except StorageError (Option α)}
    {op : Operation} {answer : Provider → Option α} (hask : ∀ p, ask p = p.reading op (answer p)) :
    s.asking (firstSome ask s.providers) = .ok (s.providers.findSome? answer) := by
  rw [h.asking]
  exact firstSome_of_forall fun p hp => (hask p).trans ((h.faultFree p hp).reading op _)

/-- The first provider whose answer is not empty gives it. -/
theorem asking_unlessEmpty {α : Type} {isEmpty : α → Bool} {empty : α}
    {ask : Provider → Except StorageError α} {op : Operation} {answer : Provider → α}
    (hask : ∀ p, ask p = p.reading op (answer p)) :
    s.asking ((firstSome (fun p => unlessEmpty isEmpty (ask p)) s.providers).map (·.getD empty)) =
      .ok ((s.providers.findSome? fun p =>
        if isEmpty (answer p) then none else some (answer p)).getD empty) := by
  have hfirst : firstSome (fun p => unlessEmpty isEmpty (ask p)) s.providers =
      .ok (s.providers.findSome? fun p =>
        if isEmpty (answer p) then none else some (answer p)) := by
    refine firstSome_of_forall fun p hp => ?_
    rw [hask p, (h.faultFree p hp).reading]
    rfl
  rw [h.asking, hfirst]
  rfl

theorem get (part : Partition) (key : Bytes) :
    s.get part key = .ok (s.providers.findSome? fun p => (p.tables.table part).get? key) :=
  h.asking_firstSome fun _ => rfl

theorem first (part : Partition) :
    s.first part = .ok (s.providers.findSome? fun p => (p.tables.table part).first?) :=
  h.asking_firstSome fun _ => rfl

theorem last (part : Partition) :
    s.last part = .ok (s.providers.findSome? fun p => (p.tables.table part).last?) :=
  h.asking_firstSome fun _ => rfl

theorem next (part : Partition) (key : Bytes) :
    s.next part key = .ok (s.providers.findSome? fun p => (p.tables.table part).next? key) :=
  h.asking_firstSome fun _ => rfl

theorem previous (part : Partition) (key : Bytes) :
    s.previous part key =
      .ok (s.providers.findSome? fun p => (p.tables.table part).previous? key) :=
  h.asking_firstSome fun _ => rfl

theorem contains (part : Partition) (key : Bytes) :
    s.contains part key = .ok (s.providers.any fun p => (p.tables.table part).contains key) := by
  rw [Store.contains, h.asking]
  exact anyTrue_of_forall fun p hp => (h.faultFree p hp).reading _ _

theorem mayContain (part : Partition) (key : Bytes) :
    s.mayContain part key =
      .ok (s.providers.any fun p => p.vague || (p.tables.table part).contains key) := by
  rw [Store.mayContain, h.asking]
  exact anyTrue_of_forall fun p hp => (h.faultFree p hp).reading _ _

theorem count (part : Partition) :
    s.count part = .ok ((s.providers.findSome? fun p =>
      if (p.tables.table part).size == 0 then none else some (p.tables.table part).size).getD 0) :=
  h.asking_unlessEmpty fun _ => rfl

theorem keys (part : Partition) (start : Bytes) :
    s.keys part start = .ok ((s.providers.findSome? fun p =>
      if (Provider.keysFrom (p.tables.table part) start).isEmpty then none
      else some (Provider.keysFrom (p.tables.table part) start)).getD []) :=
  h.asking_unlessEmpty fun _ => rfl

theorem unreferenced (part : Partition) :
    s.unreferenced part = .ok ((s.providers.findSome? fun p =>
      if (Provider.unreferencedKeys p.tables part).isEmpty then none
      else some (Provider.unreferencedKeys p.tables part)).getD []) :=
  h.asking_unlessEmpty fun _ => rfl

theorem save (r : Put) :
    s.save r.partition r.key r.value = (.ok true, ⟨s.providers.map fun p =>
      { p.attempt with tables := p.tables.put r.partition r.key r.value }⟩) :=
  changing_of_forall _ h.providers_ne_nil fun p hp => (h.faultFree p hp).save r

theorem saveAll (rs : List Put) :
    s.saveAll rs = (.ok true, ⟨s.providers.map fun p =>
      { p.attempt with tables := p.tables.putAll rs }⟩) :=
  changing_of_forall _ h.providers_ne_nil fun p hp => (h.faultFree p hp).saveAll rs

theorem delete (part : Partition) (key : Bytes) :
    s.delete part key = (.ok (), ⟨s.providers.map fun p =>
      { p.attempt with tables := p.tables.remove part key }⟩) :=
  changing_of_forall _ h.providers_ne_nil fun p hp => (h.faultFree p hp).delete part key

end FaultFree

end Store

/-! ## One fault-free provider -/

namespace Store

/-- A store is one fault-free provider with the given tables. -/
def Keeps (s : Store) (T : Tables) : Prop :=
  ∃ p : Provider, s.providers = [p] ∧ p.FaultFree ∧ p.tables = T

theorem keeps_fresh (name : String) : Keeps ⟨[Provider.fresh name]⟩ .empty :=
  ⟨_, rfl, Provider.faultFree_fresh name, rfl⟩

namespace Keeps

variable {s : Store} {T : Tables} (h : s.Keeps T)
include h

theorem holds_iff (part : Partition) (key : Bytes) :
    s.Holds part key ↔ (T.table part).contains key = true := by
  obtain ⟨p, hp, _, rfl⟩ := h
  simp [Holds, hp, Provider.Has]

theorem unique {T' : Tables} (h' : s.Keeps T') : T = T' := by
  obtain ⟨p, hp, _, rfl⟩ := h
  obtain ⟨p', hp', _, rfl⟩ := h'
  rw [hp] at hp'
  rw [(List.cons.inj hp').1]

theorem totalSize (part : Partition) : s.totalSize part = (T.table part).size := by
  obtain ⟨p, hp, _, rfl⟩ := h
  simp [Store.totalSize, hp]

theorem faultFree : s.FaultFree := by
  obtain ⟨p, hp, hf, _⟩ := h
  obtain ⟨ps⟩ := s
  subst hp
  exact .one hf

theorem contains (part : Partition) (key : Bytes) :
    s.contains part key = .ok ((T.table part).contains key) := by
  have hfree := h.faultFree
  obtain ⟨p, hp, _, rfl⟩ := h
  simp [hfree.contains, hp]

/-- What is asked of the provider is asked of the tables. -/
theorem asking_firstSome {α : Type} {ask : Provider → Except StorageError (Option α)}
    {op : Operation} (answer : Tables → Option α)
    (hask : ∀ p : Provider, ask p = p.reading op (answer p.tables)) :
    s.asking (firstSome ask s.providers) = .ok (answer T) := by
  have hfree := h.faultFree
  obtain ⟨p, hp, _, rfl⟩ := h
  rw [hfree.asking_firstSome hask, hp, List.findSome?_singleton]

theorem get (part : Partition) (key : Bytes) : s.get part key = .ok ((T.table part).get? key) :=
  h.asking_firstSome (fun T => (T.table part).get? key) fun _ => rfl

theorem first (part : Partition) : s.first part = .ok (T.table part).first? :=
  h.asking_firstSome (fun T => (T.table part).first?) fun _ => rfl

theorem last (part : Partition) : s.last part = .ok (T.table part).last? :=
  h.asking_firstSome (fun T => (T.table part).last?) fun _ => rfl

theorem next (part : Partition) (key : Bytes) : s.next part key = .ok ((T.table part).next? key) :=
  h.asking_firstSome (fun T => (T.table part).next? key) fun _ => rfl

theorem previous (part : Partition) (key : Bytes) :
    s.previous part key = .ok ((T.table part).previous? key) :=
  h.asking_firstSome (fun T => (T.table part).previous? key) fun _ => rfl

theorem count (part : Partition) : s.count part = .ok (T.table part).size := by
  have hfree := h.faultFree
  obtain ⟨p, hp, _, rfl⟩ := h
  rw [hfree.count, hp, List.findSome?_singleton]
  exact congrArg Except.ok (getD_unlessEmpty (· == 0) _ eq_of_beq)

theorem keys (part : Partition) (start : Bytes) :
    s.keys part start = .ok (Provider.keysFrom (T.table part) start) := by
  have hfree := h.faultFree
  obtain ⟨p, hp, _, rfl⟩ := h
  rw [hfree.keys, hp, List.findSome?_singleton]
  exact congrArg Except.ok (getD_unlessEmpty List.isEmpty _ List.isEmpty_iff.mp)

theorem unreferenced (part : Partition) :
    s.unreferenced part = .ok (Provider.unreferencedKeys T part) := by
  have hfree := h.faultFree
  obtain ⟨p, hp, _, rfl⟩ := h
  rw [hfree.unreferenced, hp, List.findSome?_singleton]
  exact congrArg Except.ok (getD_unlessEmpty List.isEmpty _ List.isEmpty_iff.mp)

theorem save (part : Partition) (key value : Bytes) :
    ∃ s', s.save part key value = (.ok true, s') ∧ s'.Keeps (T.put part key value) := by
  have hsave := h.faultFree.save ⟨part, key, value⟩
  obtain ⟨p, hp, hf, rfl⟩ := h
  rw [hp] at hsave
  exact ⟨_, hsave, _, rfl, hf.withTables _, rfl⟩

theorem delete (part : Partition) (key : Bytes) :
    ∃ s', s.delete part key = (.ok (), s') ∧ s'.Keeps (T.remove part key) := by
  have hdelete := h.faultFree.delete part key
  obtain ⟨p, hp, hf, rfl⟩ := h
  rw [hp] at hdelete
  exact ⟨_, hdelete, _, rfl, hf.withTables _, rfl⟩

end Keeps

end Store

end TernaryGossip
