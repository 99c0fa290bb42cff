import Mathlib.Data.List.Dedup
import TernaryGossip.Proofs.Gossip.Queue

/-! # What a bounded queue keeps

    A queue that items are only pushed into keeps those that come first, as
    many as fit, in whatever order they were pushed.  Its entries are the
    first entries of the unbounded map that holds every item pushed, under
    each priority the last: what a push drops would be cut off at the end in
    any case.

    If items are taken as well, each item that was pushed waits, was taken,
    was dropped or was replaced, and exactly one of these.  A ledger that is
    kept during a run tells them apart. -/

namespace TernaryGossip.WeightQueue

variable {α : Type}

/-! ## Size -/

theorem ext {q q' : WeightQueue α} (hitems : q.items = q'.items)
    (hcapacity : q.capacity = q'.capacity) : q = q' := by
  cases q
  cases q'
  cases hitems
  cases hcapacity
  rfl

@[simp] theorem capacity_push (q : WeightQueue α) (p : Priority) (a : α) :
    (q.push p a).2.capacity = q.capacity := by
  unfold push
  simp only
  split <;> rfl

/-- A push keeps the first entries, as many as fit. -/
theorem entries_push_eq_take {q : WeightQueue α} (h : q.size ≤ q.capacity) (p : Priority) (a : α) :
    (q.push p a).2.items.entries = (q.items.insert p a).entries.take q.capacity := by
  have hgrows : (q.items.insert p a).entries.length ≤ q.items.entries.length + 1 :=
    OrderedMap.length_insertEntry_le p a _
  have hfits : q.items.entries.length ≤ q.capacity := h
  unfold push
  simp only
  split
  · next hfull =>
    -- one entry too many, which is the last
    have hlength : (q.items.insert p a).entries.length > q.capacity := hfull
    show (q.items.insert p a).entries.dropLast = _
    rw [List.dropLast_eq_take]
    congr 1
    omega
  · next hroom =>
    have hlength : ¬ (q.items.insert p a).entries.length > q.capacity := hroom
    show (q.items.insert p a).entries = _
    rw [List.take_of_length_le (by omega)]

theorem size_push_le {q : WeightQueue α} (h : q.size ≤ q.capacity) (p : Priority) (a : α) :
    (q.push p a).2.size ≤ q.capacity := by
  show (q.push p a).2.items.entries.length ≤ q.capacity
  rw [entries_push_eq_take h, List.length_take]
  exact Nat.min_le_left _ _

theorem size_of_pop? {q q' : WeightQueue α} {a : α} (h : q.pop? = some (a, q')) :
    q.size = q'.size + 1 := by
  obtain ⟨p, hp⟩ := entries_of_pop? h
  show q.items.entries.length = q'.items.entries.length + 1
  rw [hp, List.length_cons]

theorem capacity_of_pop? {q q' : WeightQueue α} {a : α} (h : q.pop? = some (a, q')) :
    q'.capacity = q.capacity := by
  unfold pop? at h
  obtain ⟨e, _, heq⟩ := Option.map_eq_some_iff.mp h
  rw [← (Prod.mk.inj heq).2]

/-! ## Pushing several items -/

section pushAll
variable (priority : α → Priority)

/-- Queues several items, one after another, whatever has to be dropped. -/
def pushAll (q : WeightQueue α) (as : List α) : WeightQueue α :=
  as.foldl (fun q a => (q.push (priority a) a).2) q

theorem pushAll_concat (q : WeightQueue α) (as : List α) (a : α) :
    q.pushAll priority (as ++ [a]) = ((q.pushAll priority as).push (priority a) a).2 := by
  rw [pushAll, List.foldl_append]
  rfl

/-- The last of several items that has a priority. -/
def lastOf (as : List α) (p : Priority) : Option α := as.reverse.find? fun a => priority a = p

theorem mem_of_lastOf {as : List α} {p : Priority} {a : α} (h : lastOf priority as p = some a) :
    a ∈ as ∧ priority a = p := by
  refine ⟨List.mem_reverse.mp (List.mem_of_find?_eq_some h), ?_⟩
  have := List.find?_some h
  simpa using this

theorem exists_lastOf {as : List α} {a : α} (h : a ∈ as) :
    ∃ b, lastOf priority as (priority a) = some b := by
  apply Option.isSome_iff_exists.mp
  rw [lastOf, List.find?_isSome]
  exact ⟨a, List.mem_reverse.mpr h, decide_eq_true rfl⟩

/-- Several items, under each priority the last. -/
def latest (as : List α) : OrderedMap Priority α := .ofList (as.map fun a => (priority a, a))

theorem latest_concat (as : List α) (a : α) :
    latest priority (as ++ [a]) = (latest priority as).insert (priority a) a := by
  rw [latest, List.map_append]
  exact OrderedMap.ofList_concat _ _

theorem get?_latest (as : List α) (p : Priority) :
    (latest priority as).get? p = lastOf priority as p := by
  rw [latest, OrderedMap.get?_ofList, ← List.map_reverse, List.find?_map, Option.map_map]
  have hsame : ((fun e : Priority × α => compare p e.1 == .eq) ∘ fun a => (priority a, a)) =
      fun a => decide (priority a = p) := by
    funext a
    rw [Bool.eq_iff_iff, decide_eq_true_iff, Function.comp, beq_iff_eq,
      Std.LawfulEqCmp.compare_eq_iff_eq, eq_comm]
  rw [hsame]
  exact Option.map_id'

theorem contains_latest (as : List α) (p : Priority) :
    (latest priority as).contains p = true ↔ p ∈ as.map priority := by
  rw [OrderedMap.contains, get?_latest, lastOf, List.find?_isSome]
  simp

/-- There are as many entries as priorities. -/
theorem size_latest (as : List α) :
    (latest priority as).size = (as.map priority).dedup.length := by
  have hkeys : (latest priority as).keys.Perm (as.map priority).dedup := by
    refine (List.perm_ext_iff_of_nodup ?_ (List.nodup_dedup _)).mpr fun p => ?_
    · refine (OrderedMap.sorted_keys _).imp ?_
      rintro a b hlt rfl
      rw [Std.ReflOrd.compare_self] at hlt
      cases hlt
    · rw [← OrderedMap.contains_iff_mem_keys, contains_latest, List.mem_dedup]
  rw [← hkeys.length_eq]
  exact (List.length_map _).symm

/-- In whatever order items of different priorities come, the map is the same. -/
theorem latest_of_perm {as bs : List α} (h : as.Perm bs) (hdistinct : (as.map priority).Nodup) :
    latest priority as = latest priority bs := by
  have hmem : ∀ cs : List α, (cs.map priority).Nodup → ∀ e : Priority × α,
      e ∈ (latest priority cs).entries ↔ e.2 ∈ cs ∧ priority e.2 = e.1 := by
    intro cs hcs e
    rw [OrderedMap.mem_entries_iff (latest priority cs) e.1 e.2, get?_latest]
    constructor
    · exact mem_of_lastOf priority
    · rintro ⟨hc, hp⟩
      obtain ⟨a, hlast⟩ := exists_lastOf priority hc
      obtain ⟨ha, hpa⟩ := mem_of_lastOf priority hlast
      -- two items of one priority are the same
      rw [← hp, hlast, List.inj_on_of_nodup_map hcs ha hc hpa]
  apply OrderedMap.ext
  refine OrderedMap.eq_of_ascending Prod.fst (latest priority as).sorted
    (latest priority bs).sorted fun e => ?_
  rw [hmem as hdistinct, hmem bs ((h.map priority).nodup hdistinct), h.mem_iff]

theorem capacity_pushAll (q : WeightQueue α) (as : List α) :
    (q.pushAll priority as).capacity = q.capacity := by
  induction as using List.reverseRecOn with
  | nil => rfl
  | append_singleton as a ih => rw [pushAll_concat, capacity_push, ih]

/-- The queue holds the first entries of the unbounded map. -/
theorem entries_pushAll (capacity : Nat) (as : List α) :
    ((empty capacity).pushAll priority as).items.entries =
      (latest priority as).entries.take (max capacity 1) := by
  induction as using List.reverseRecOn with
  | nil => exact List.take_nil.symm
  | append_singleton as a ih =>
    have hcapacity : ((empty capacity).pushAll priority as).capacity = max capacity 1 :=
      capacity_pushAll priority _ _
    have hfits : ((empty capacity).pushAll priority as).size ≤
        ((empty capacity).pushAll priority as).capacity := by
      show ((empty capacity).pushAll priority as).items.entries.length ≤ _
      rw [ih, hcapacity, List.length_take]
      exact Nat.min_le_left _ _
    rw [pushAll_concat, entries_push_eq_take hfits, hcapacity, latest_concat]
    -- writing to the first entries and cutting off is writing to all and cutting off
    rw [OrderedMap.entries_insert, OrderedMap.entries_insert, ih, OrderedMap.take_insertEntry]

/-- What does not fit comes behind everything that does. -/
theorem key_kept_or_above {capacity : Nat} {as : List α} {q : WeightQueue α}
    (h : q.items.entries = (latest priority as).entries.take capacity) {p : Priority}
    (hp : p ∈ as.map priority) :
    p ∈ q.items.keys ∨ ∀ p' ∈ q.items.keys, compare p' p = .lt := by
  obtain ⟨a, hmem⟩ := (OrderedMap.contains_iff _ p).mp ((contains_latest priority as p).mpr hp)
  have hsorted := (latest priority as).sorted
  rw [← List.take_append_drop capacity (latest priority as).entries, ← h] at hmem hsorted
  rcases List.mem_append.mp hmem with hkept | hcut
  · exact .inl (List.mem_map_of_mem hkept)
  · refine .inr fun p' hp' => ?_
    obtain ⟨e, he, rfl⟩ := List.mem_map.mp hp'
    exact (List.pairwise_append.mp hsorted).2.2 e he (p, a) hcut

theorem keyed_pushAll {q : WeightQueue α} (h : q.Keyed priority) (as : List α) :
    (q.pushAll priority as).Keyed priority := by
  induction as using List.reverseRecOn with
  | nil => exact h
  | append_singleton as a ih =>
    rw [pushAll_concat]
    exact ih.push a

end pushAll

/-! ## Taking all items -/

/-- Takes items until none is left. -/
def drain (q : WeightQueue α) : List α :=
  match h : q.pop? with
  | none => []
  | some (a, rest) =>
      have : rest.size < q.size := by
        rw [size_of_pop? h]
        exact Nat.lt_succ_self _
      a :: drain rest
termination_by q.size

theorem drain_eq_toList (q : WeightQueue α) : q.drain = q.toList := by
  induction q using drain.induct with
  | case1 q h =>
    have hnil : q.items.entries = [] := by
      rw [pop?, Option.map_eq_none_iff] at h
      exact List.head?_eq_none_iff.mp h
    rw [drain, toList, OrderedMap.values, hnil]
    split
    · rfl
    · next hpop => rw [h] at hpop; cases hpop
  | case2 q a rest h _ ih =>
    rw [drain]
    split
    · next hpop => rw [h] at hpop; cases hpop
    · next hpop =>
      rw [h] at hpop
      cases hpop
      rw [toList_of_pop? h, ih]

theorem ascending_toList {priority : α → Priority} {q : WeightQueue α} (h : q.Keyed priority) :
    (q.toList.map priority).Pairwise fun a b => compare a b = .lt := by
  have hkeys : q.toList.map priority = q.items.keys := by
    rw [toList, OrderedMap.values, OrderedMap.keys, List.map_map]
    apply List.map_congr_left
    intro e he
    exact (h e he).symm
  rw [hkeys]
  exact q.items.sorted_keys

/-! ## Mixed use -/

/-- After a push everything waits but what is dropped and what is replaced. -/
theorem perm_push (q : WeightQueue α) (p : Priority) (a : α) :
    ((q.push p a).2.toList ++ (q.push p a).1.toList ++ (q.items.get? p).toList).Perm
      (a :: q.toList) := by
  have hinsert : ((q.items.insert p a).values ++ (q.items.get? p).toList).Perm (a :: q.toList) := by
    have hperm := (q.items.perm_insert p a).map Prod.snd
    rw [List.map_append, List.map_map] at hperm
    have hid : (q.items.get? p).toList.map (Prod.snd ∘ fun w => (p, w)) = (q.items.get? p).toList :=
      List.map_id _
    rw [hid] at hperm
    exact hperm
  have hvalues : (q.push p a).2.toList ++ (q.push p a).1.toList = (q.items.insert p a).values := by
    rcases entries_push q p a with ⟨e, hout, heq⟩ | ⟨hout, heq⟩
    · rw [OrderedMap.values, heq, List.map_append, hout]
      rfl
    · rw [OrderedMap.values, heq, hout, Option.toList_none, List.append_nil]
      rfl
  rw [hvalues]
  exact hinsert

/-- A use of a queue. -/
inductive Use (α : Type)
  /-- An item is queued. -/
  | push (a : α)
  /-- The first item is taken. -/
  | pop

/-- The item that is queued. -/
def Use.pushed? : Use α → Option α
  | .push a => some a
  | .pop => none

/-- A queue, and what became of the items that were pushed into it. -/
structure Ledger (α : Type) where
  /-- The queue. -/
  queue : WeightQueue α
  /-- The items that were taken. -/
  popped : List α
  /-- The items that a push had to drop. -/
  evicted : List α
  /-- The items that were replaced, each with the one that took its place. -/
  replaced : List (α × α)

namespace Ledger

variable (priority : α → Priority)

/-- The ledger of an empty queue. -/
def start (capacity : Nat) : Ledger α := ⟨.empty capacity, [], [], []⟩

/-- The ledger after one more use of the queue. -/
def use (l : Ledger α) : Use α → Ledger α
  | .push a =>
      let (evicted, queue) := l.queue.push (priority a) a
      { queue
        popped := l.popped
        evicted := l.evicted ++ evicted.toList
        replaced := l.replaced ++ (l.queue.items.get? (priority a)).toList.map (·, a) }
  | .pop =>
      match l.queue.pop? with
      | none => l
      | some (a, queue) => { l with queue, popped := l.popped ++ [a] }

/-- The ledger after several uses. -/
def useAll (l : Ledger α) (us : List (Use α)) : Ledger α := us.foldl (use priority) l

/-- Everything that was pushed is accounted for. -/
structure Balanced (capacity : Nat) (pushed : List α) (l : Ledger α) : Prop where
  room : l.queue.capacity = max capacity 1
  bounded : l.queue.size ≤ max capacity 1
  keyed : l.queue.Keyed priority
  accounted : pushed.Perm (l.queue.toList ++ l.popped ++ l.evicted ++ l.replaced.map (·.1))
  replaced : ∀ x ∈ l.replaced, priority x.1 = priority x.2 ∧ [x.1, x.2].Sublist pushed

theorem balanced_start (capacity : Nat) : (start capacity).Balanced priority capacity [] where
  room := rfl
  bounded := Nat.zero_le _
  keyed := keyed_empty priority capacity
  accounted := .refl _
  replaced := fun _ hx => absurd hx List.not_mem_nil

section steps
variable {priority} {capacity : Nat} {pushed : List α} {l : Ledger α}
  (h : l.Balanced priority capacity pushed)
include h

theorem Balanced.push (a : α) :
    (l.use priority (.push a)).Balanced priority capacity (pushed ++ [a]) where
  room := by
    show (l.queue.push (priority a) a).2.capacity = _
    rw [capacity_push, h.room]
  bounded := by
    have hfits : l.queue.size ≤ l.queue.capacity := by
      rw [h.room]
      exact h.bounded
    rw [← h.room]
    exact size_push_le hfits (priority a) a
  keyed := h.keyed.push a
  accounted := by
    classical
    rw [List.perm_iff_count]
    intro x
    have hpush := (perm_push l.queue (priority a) a).count_eq x
    have haccounted := h.accounted.count_eq x
    have hreplaced : ((l.queue.items.get? (priority a)).toList.map (·, a)).map Prod.fst =
        (l.queue.items.get? (priority a)).toList := by
      rw [List.map_map]
      exact List.map_id _
    have hcons : (a :: l.queue.toList).count x = [a].count x + l.queue.toList.count x := by
      rw [← List.count_append]
      rfl
    simp only [use, List.map_append, hreplaced, List.count_append, hcons] at hpush haccounted ⊢
    omega
  replaced := by
    intro x hx
    rcases List.mem_append.mp hx with hx | hx
    · obtain ⟨hsame, hsub⟩ := h.replaced x hx
      exact ⟨hsame, hsub.trans (List.sublist_append_left _ _)⟩
    · obtain ⟨b, hb, rfl⟩ := List.mem_map.mp hx
      -- the replaced item waited under the priority of the new one, so it was pushed before
      have hmem : (priority a, b) ∈ l.queue.items.entries :=
        (OrderedMap.mem_entries_iff _ _ _).mpr (Option.mem_toList.mp hb)
      have hpushed : b ∈ pushed := by
        refine h.accounted.mem_iff.mpr ?_
        simp only [List.append_assoc]
        exact List.mem_append_left _ (mem_toList.mpr ⟨_, hmem⟩)
      exact ⟨(h.keyed _ hmem).symm,
        (List.singleton_sublist.mpr hpushed).append (List.Sublist.refl [a])⟩

theorem Balanced.pop : (l.use priority .pop).Balanced priority capacity pushed := by
  unfold use
  cases hpop : l.queue.pop? with
  | none => exact h
  | some x =>
    obtain ⟨a, queue⟩ := x
    exact {
      room := (capacity_of_pop? hpop).trans h.room
      bounded := by
        have := h.bounded
        rw [size_of_pop? hpop] at this
        exact Nat.le_of_succ_le this
      keyed := h.keyed.pop hpop
      accounted := by
        refine h.accounted.trans ?_
        rw [toList_of_pop? hpop]
        -- the item moves from the front of the queue to the end of those taken
        have hmove : (a :: queue.toList ++ l.popped).Perm (queue.toList ++ (l.popped ++ [a])) := by
          rw [← List.append_assoc]
          exact (List.perm_append_singleton a (queue.toList ++ l.popped)).symm
        exact (hmove.append_right _).append_right _
      replaced := h.replaced }

end steps

theorem balanced_useAll (capacity : Nat) (us : List (Use α)) :
    ((start capacity).useAll priority us).Balanced priority capacity
      (us.filterMap Use.pushed?) := by
  induction us using List.reverseRecOn with
  | nil => exact balanced_start priority capacity
  | append_singleton us u ih =>
    rw [useAll, List.foldl_append, List.filterMap_append]
    cases u with
    | push a => exact ih.push a
    | pop =>
      rw [show [Use.pop].filterMap Use.pushed? = ([] : List α) from rfl, List.append_nil]
      exact ih.pop

end Ledger

/-! ## What is kept -/

/-- Pushed into an empty queue, of all items those stay that come first, as
    many as fit, under each priority the last; so the order of items of
    different priorities does not matter, and they are taken in the order of
    their priorities.

    If items are pushed and taken in any order, the queue never holds more
    than fit, and each pushed item waits, was taken, was dropped, or was
    replaced by a later one of its priority, and only one of these. -/
theorem keeps_best (priority : α → Priority) (capacity : Nat) :
    (∀ as : List α,
      let q := (empty capacity).pushAll priority as
      q.size = min (max capacity 1) (as.map priority).dedup.length ∧
      (∀ p a, (p, a) ∈ q.items.entries → lastOf priority as p = some a) ∧
      (∀ a ∈ as, priority a ∈ q.items.keys ∨
        ∀ p ∈ q.items.keys, compare p (priority a) = .lt) ∧
      (∀ bs, as.Perm bs → (as.map priority).Nodup → (empty capacity).pushAll priority bs = q) ∧
      q.drain = q.toList ∧
      (q.drain.map priority).Pairwise fun a b => compare a b = .lt) ∧
    ∀ us : List (Use α),
      let l := (Ledger.start capacity).useAll priority us
      let pushed := us.filterMap Use.pushed?
      l.queue.size ≤ max capacity 1 ∧
      pushed.Perm (l.queue.toList ++ l.popped ++ l.evicted ++ l.replaced.map (·.1)) ∧
      ∀ x ∈ l.replaced, priority x.1 = priority x.2 ∧ [x.1, x.2].Sublist pushed := by
  constructor
  · intro as q
    have hentries : q.items.entries = (latest priority as).entries.take (max capacity 1) :=
      entries_pushAll priority capacity as
    have hkeyed : q.Keyed priority :=
      keyed_pushAll priority (keyed_empty priority capacity) as
    refine ⟨?_, ?_, ?_, ?_, q.drain_eq_toList, ?_⟩
    · show q.items.entries.length = _
      rw [hentries, List.length_take, ← size_latest]
      rfl
    · intro p a hmem
      rw [hentries] at hmem
      rw [← get?_latest]
      exact (OrderedMap.mem_entries_iff _ p a).mp (List.mem_of_mem_take hmem)
    · intro a ha
      exact key_kept_or_above priority hentries (List.mem_map_of_mem ha)
    · intro bs hperm hdistinct
      have hcapacity : ((empty capacity).pushAll priority bs).capacity = q.capacity :=
        (capacity_pushAll priority _ bs).trans (capacity_pushAll priority _ as).symm
      have hitems : ((empty capacity).pushAll priority bs).items = q.items := by
        apply OrderedMap.ext
        rw [hentries, entries_pushAll, latest_of_perm priority hperm hdistinct]
      exact ext hitems hcapacity
    · rw [drain_eq_toList]
      exact ascending_toList hkeyed
  · intro us l pushed
    have h : l.Balanced priority capacity pushed := Ledger.balanced_useAll priority capacity us
    exact ⟨h.bounded, h.accounted, h.replaced⟩

/-- Items that are their own weights. -/
def ownWeight (weight : Nat) : Priority := ⟨weight, Hash.null, none⟩

/-- The heaviest two of three stay, in whichever of two orders they come. -/
theorem keeps_best_weights :
    [1, 2, 3].Perm [3, 1, 2] ∧ ([1, 2, 3].map ownWeight).Nodup ∧
      (empty 2).pushAll ownWeight [3, 1, 2] = (empty 2).pushAll ownWeight [1, 2, 3] ∧
      ((empty 2).pushAll ownWeight [1, 2, 3]).drain = [3, 2] := by
  have hperm : [1, 2, 3].Perm [3, 1, 2] := by decide
  have hdistinct : ([1, 2, 3].map ownWeight).Nodup := by decide
  obtain ⟨_, _, _, hsame, hdrain, _⟩ := (keeps_best ownWeight 2).1 [1, 2, 3]
  refine ⟨hperm, hdistinct, hsame [3, 1, 2] hperm hdistinct, ?_⟩
  rw [hdrain]
  decide

end TernaryGossip.WeightQueue
