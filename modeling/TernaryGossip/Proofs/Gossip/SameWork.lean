import TernaryGossip.Gossip.Work
import TernaryGossip.Proofs.Gossip.Best

/-! # Work that counts as the same

    Two requests have the same priority exactly if they ask for the same hash
    and come from the same address, and so have two received transactions.
    The transport is no part of a priority, though the roster tells two
    neighbors of one address apart by it.

    An item waits from its push until it is taken, as long as nothing is
    dropped and no other item of its priority is pushed.  So the work of two
    neighbors stays side by side if their addresses differ.  If two neighbors
    have one address, and differ in their transports alone, the work of the
    later one takes the place of the work of the other. -/

namespace TernaryGossip

/-! ## Equal priorities -/

theorem Request.priority_eq_iff {r s : Request} :
    r.priority = s.priority ↔ r.hash = s.hash ∧ r.neighbor.address = s.neighbor.address := by
  simp only [priority, Priority.mk.injEq, Option.some.injEq]
  constructor
  · rintro ⟨-, hhash, haddress⟩
    exact ⟨hhash, haddress⟩
  · rintro ⟨hhash, haddress⟩
    exact ⟨by rw [hhash], hhash, haddress⟩

theorem Received.priority_eq_iff {r s : Received} :
    r.priority = s.priority ↔
      r.transaction.hash = s.transaction.hash ∧ r.neighbor.address = s.neighbor.address := by
  simp only [priority, Transaction.weight, Priority.mk.injEq, Option.some.injEq]
  constructor
  · rintro ⟨-, hhash, haddress⟩
    exact ⟨hhash, haddress⟩
  · rintro ⟨hhash, haddress⟩
    exact ⟨by rw [hhash], hhash, haddress⟩

namespace WeightQueue

variable {α : Type} {priority : α → Priority}

/-! ## Waiting until taken -/

/-- The ledger of a queue that is already in use. -/
def Ledger.ofQueue (q : WeightQueue α) : Ledger α := ⟨q, [], [], []⟩

/-- What becomes of an item that was pushed, unless it is replaced. -/
def Ledger.Kept (l : Ledger α) (x : α) : Prop :=
  x ∈ l.queue.toList ∨ x ∈ l.popped ∨ x ∈ l.evicted

theorem Ledger.queue_push (l : Ledger α) (z : α) :
    (l.use priority (.push z)).queue = (l.queue.push (priority z) z).2 := rfl

theorem Ledger.evicted_push (l : Ledger α) (z : α) :
    (l.use priority (.push z)).evicted = l.evicted ++ (l.queue.push (priority z) z).1.toList := rfl

/-- An item that is put into the map of the queue waits then or is dropped. -/
theorem Ledger.kept_of_mem_insert {l : Ledger α} {x z : α} {p : Priority}
    (h : (p, x) ∈ (l.queue.items.insert (priority z) z).entries) :
    (l.use priority (.push z)).Kept x := by
  rcases mem_push_of_mem_insert h with hstays | hout
  · refine .inl (mem_toList.mpr ⟨p, ?_⟩)
    rw [queue_push]
    exact hstays
  · refine .inr (.inr ?_)
    rw [evicted_push, hout]
    exact List.mem_append_right _ (List.mem_singleton_self x)

/-- Only another item of its priority replaces one that waits. -/
theorem Ledger.Kept.push {l : Ledger α} (hkeyed : l.queue.Keyed priority) {x : α} (h : l.Kept x)
    {z : α} (hrival : priority z = priority x → z = x) :
    (l.use priority (.push z)).Kept x := by
  rcases h with hwaits | hpopped | hevicted
  · obtain ⟨p, hmem⟩ := mem_toList.mp hwaits
    apply Ledger.kept_of_mem_insert (p := p)
    rw [OrderedMap.mem_insert]
    have hp : p = priority x := hkeyed _ hmem
    by_cases hsame : priority z = priority x
    · -- the item takes its own place
      refine .inl ?_
      rw [hrival hsame, hp]
    · refine .inr ⟨fun heq => hsame ?_, hmem⟩
      rw [← hp]
      exact heq.symm
  · exact .inr (.inl hpopped)
  · exact .inr (.inr (List.mem_append_left _ hevicted))

theorem Ledger.Kept.pop {l : Ledger α} {x : α} (h : l.Kept x) : (l.use priority .pop).Kept x := by
  unfold use
  cases hpop : l.queue.pop? with
  | none => exact h
  | some taken =>
    obtain ⟨a, rest⟩ := taken
    rcases h with hwaits | hpopped | hevicted
    · rw [toList_of_pop? hpop] at hwaits
      rcases List.mem_cons.mp hwaits with rfl | hwaits
      · exact .inr (.inl (List.mem_append_right _ (List.mem_singleton_self x)))
      · exact .inl hwaits
    · exact .inr (.inl (List.mem_append_left _ hpopped))
    · exact .inr (.inr hevicted)

theorem Ledger.keyed_use {l : Ledger α} (h : l.queue.Keyed priority) (u : Use α) :
    (l.use priority u).queue.Keyed priority := by
  cases u with
  | push z => exact h.push z
  | pop =>
    unfold use
    cases hpop : l.queue.pop? with
    | none => exact h
    | some taken => exact h.pop hpop

theorem Ledger.kept_useAll {l : Ledger α} (hkeyed : l.queue.Keyed priority) {x : α} (h : l.Kept x)
    (us : List (Use α))
    (hrival : ∀ z ∈ us.filterMap Use.pushed?, priority z = priority x → z = x) :
    (l.useAll priority us).Kept x := by
  induction us generalizing l with
  | nil => exact h
  | cons u us ih =>
    have hrest : ∀ z ∈ us.filterMap Use.pushed?, priority z = priority x → z = x := by
      intro z hz
      obtain ⟨v, hv, hvz⟩ := List.mem_filterMap.mp hz
      exact hrival z (List.mem_filterMap.mpr ⟨v, List.mem_cons_of_mem u hv, hvz⟩)
    refine ih (keyed_use hkeyed u) ?_ hrest
    cases u with
    | push z => exact h.push hkeyed (hrival z List.mem_cons_self)
    | pop => exact h.pop

/-- Once an item is queued it waits or is taken, whatever the queue is used
    for, as long as nothing is dropped and nothing but this item and one
    other is pushed under its priority. -/
def StaysBeside (priority : α → Priority) (x y : α) : Prop :=
  ∀ (q : WeightQueue α) (us : List (Use α)), q.Keyed priority →
    let pushed := q.push (priority x) x
    let l := (Ledger.ofQueue pushed.2).useAll priority us
    pushed.1 = none → l.evicted = [] →
    (∀ z ∈ us.filterMap Use.pushed?, priority z = priority x → z = x ∨ z = y) →
    x ∈ l.queue.toList ∨ x ∈ l.popped

theorem staysBeside_of_ne {x y : α} (hne : priority y ≠ priority x) :
    StaysBeside priority x y := by
  intro q us hkeyed pushed l hfits hdropped hrival
  have hqueued : x ∈ pushed.2.toList := by
    rcases mem_push_self q (priority x) x with hmem | hout
    · exact mem_toList.mpr ⟨priority x, hmem⟩
    · rw [hfits] at hout
      cases hout
  have hkept : l.Kept x := by
    refine Ledger.kept_useAll (hkeyed.push x) (.inl hqueued) us ?_
    intro z hz hsame
    rcases hrival z hz hsame with rfl | rfl
    · rfl
    · exact absurd hsame hne
  rcases hkept with hwaits | hpopped | hevicted
  · exact .inl hwaits
  · exact .inr hpopped
  · rw [hdropped] at hevicted
    cases hevicted

/-! ## Being replaced -/

/-- A push under the priority of an item that waits takes its place. -/
theorem not_mem_push_of_priority_eq {q : WeightQueue α} (hkeyed : q.Keyed priority) {x y : α}
    (hsame : priority y = priority x) (hne : x ≠ y) :
    x ∉ (q.push (priority y) y).2.toList := by
  intro hmem
  obtain ⟨p, hentry⟩ := mem_toList.mp hmem
  have hp : p = priority x := hkeyed.push y _ hentry
  -- nothing but the new item stands under this priority
  have hinsert : (p, x) ∈ (q.items.insert (priority y) y).entries := by
    rcases entries_push q (priority y) y with ⟨e, -, heq⟩ | ⟨-, heq⟩
    · rw [heq]
      exact List.mem_append_left _ hentry
    · rw [heq]
      exact hentry
  rcases (OrderedMap.mem_insert _ _ _ _).mp hinsert with heq | ⟨hother, -⟩
  · exact hne (Prod.mk.inj heq).2
  · exact hother (hp.trans hsame.symm)

/-- A push under a priority that is there drops nothing. -/
theorem push_fst_of_contains {q : WeightQueue α} (hfits : q.size ≤ q.capacity) {p : Priority}
    (h : q.items.contains p = true) (a : α) : (q.push p a).1 = none := by
  have hsize : (q.items.insert p a).size = q.size := OrderedMap.size_insert_of_contains a h
  have hroom : ¬ (q.items.insert p a).size > q.capacity := by omega
  simp [push, hroom]

/-- In a queue with room for one item, the second of two items of one
    priority is not dropped. -/
theorem not_staysBeside_of_priority_eq {x y : α} (hsame : priority y = priority x) (hne : x ≠ y) :
    ¬ StaysBeside priority x y := by
  intro h
  have hfits : ((empty 1).push (priority x) x).1 = none := by rw [push_empty]
  have hkeyed : ((empty 1).push (priority x) x).2.Keyed priority := (keyed_empty priority 1).push x
  have hsecond : (((empty 1).push (priority x) x).2.push (priority y) y).1 = none := by
    rw [push_empty]
    refine push_fst_of_contains ?_ ?_ y
    · exact Nat.le_refl 1
    · rw [OrderedMap.contains_insert]
      exact .inl hsame
  have hdropped :
      ((Ledger.ofQueue ((empty 1).push (priority x) x).2).useAll priority [.push y]).evicted = [] :=
    (Ledger.evicted_push _ y).trans (congrArg Option.toList hsecond)
  have hrivals : ∀ z ∈ [Use.push y].filterMap Use.pushed?, priority z = priority x →
      z = x ∨ z = y := fun z hz _ => .inr (List.mem_singleton.mp hz)
  rcases h (empty 1) [.push y] (keyed_empty priority 1) hfits hdropped hrivals with hwaits | hpopped
  · exact not_mem_push_of_priority_eq hkeyed hsame hne hwaits
  · cases hpopped

/-- Two different items stay beside each other unless they have one priority. -/
theorem staysBeside_iff {x y : α} (hne : x ≠ y) :
    StaysBeside priority x y ↔ priority y ≠ priority x :=
  ⟨fun h hsame => not_staysBeside_of_priority_eq hsame hne h, staysBeside_of_ne⟩

end WeightQueue

namespace Neighbor

open WeightQueue

theorem sameEndpoint_eq_false_iff {a b : Neighbor} :
    a.sameEndpoint b.address b.kind = false ↔ a.address = b.address → a.kind ≠ b.kind := by
  simp [sameEndpoint]

/-- Requests of two entries of a roster for one hash stay beside each other
    until they are taken if and only if the entries have different addresses,
    and so do two entries' copies of one transaction.  Otherwise the entries
    differ in their transports, and in every queue the work of the one takes
    the place of the work of the other. -/
theorem work_stays_iff_addresses_differ {a b : Neighbor}
    (hdistinct : a.sameEndpoint b.address b.kind = false) :
    (∀ h : Hash,
      (StaysBeside Request.priority ⟨h, a⟩ ⟨h, b⟩ ∧ StaysBeside Request.priority ⟨h, b⟩ ⟨h, a⟩) ↔
        a.address ≠ b.address) ∧
    (∀ t : Transaction,
      (StaysBeside Received.priority ⟨t, a⟩ ⟨t, b⟩ ∧ StaysBeside Received.priority ⟨t, b⟩ ⟨t, a⟩) ↔
        a.address ≠ b.address) ∧
    (a.address = b.address →
      a.kind ≠ b.kind ∧
      (∀ (h : Hash) (q : WeightQueue Request), q.Keyed Request.priority →
        ⟨h, a⟩ ∉ (q.push (Request.priority ⟨h, b⟩) ⟨h, b⟩).2.toList) ∧
      ∀ (t : Transaction) (q : WeightQueue Received), q.Keyed Received.priority →
        ⟨t, a⟩ ∉ (q.push (Received.priority ⟨t, b⟩) ⟨t, b⟩).2.toList) := by
  have hkind := sameEndpoint_eq_false_iff.mp hdistinct
  have hne : a ≠ b := by
    rintro rfl
    exact hkind rfl rfl
  have hrequests : ∀ h : Hash, (⟨h, a⟩ : Request) ≠ ⟨h, b⟩ := by
    intro h heq
    exact hne (Request.mk.inj heq).2
  have hreceived : ∀ t : Transaction, (⟨t, a⟩ : Received) ≠ ⟨t, b⟩ := by
    intro t heq
    exact hne (Received.mk.inj heq).2
  refine ⟨fun h => ?_, fun t => ?_, fun haddress => ⟨hkind haddress, ?_, ?_⟩⟩
  · rw [staysBeside_iff (hrequests h), staysBeside_iff (hrequests h).symm]
    simp only [ne_eq, Request.priority_eq_iff, true_and]
    exact ⟨fun ⟨_, hab⟩ => hab, fun hab => ⟨fun hba => hab hba.symm, hab⟩⟩
  · rw [staysBeside_iff (hreceived t), staysBeside_iff (hreceived t).symm]
    simp only [ne_eq, Received.priority_eq_iff, true_and]
    exact ⟨fun ⟨_, hab⟩ => hab, fun hab => ⟨fun hba => hab hba.symm, hab⟩⟩
  · intro h q hkeyed
    have hsame := Request.priority_eq_iff (r := ⟨h, b⟩) (s := ⟨h, a⟩) |>.mpr ⟨rfl, haddress.symm⟩
    exact not_mem_push_of_priority_eq hkeyed hsame (hrequests h)
  · intro t q hkeyed
    have hsame := Received.priority_eq_iff (r := ⟨t, b⟩) (s := ⟨t, a⟩) |>.mpr ⟨rfl, haddress.symm⟩
    exact not_mem_push_of_priority_eq hkeyed hsame (hreceived t)

/-- A neighbor of this host that was discovered. -/
def nearby (id : Nat) (kind : TransportKind) (port : UInt16) : Neighbor :=
  ⟨id, .ofAddress kind ⟨.loopback, port⟩, ⟨.loopback, port⟩, false⟩

/-- A neighbor that was discovered on a link; all links have the same number. -/
def onLink (id : Nat) (scope : UInt32) : Neighbor :=
  let address := ⟨.v6 (IpAddress.ofGroups [65152, 0, 0, 0, 0, 0, 0, 1]) 0 scope, 14600⟩
  ⟨id, .ofAddress .datagram address, address, false⟩

/-- Requests from two ports stay beside each other, and so do requests from
    one number on two links; requests over two transports from one port do
    not. -/
theorem work_stays_iff_addresses_differ_nearby :
    let x : Request := ⟨Hash.null, nearby 0 .datagram 14600⟩
    let y : Request := ⟨Hash.null, nearby 1 .datagram 14601⟩
    let z : Request := ⟨Hash.null, nearby 1 .stream 14600⟩
    let v : Request := ⟨Hash.null, onLink 2 1⟩
    let w : Request := ⟨Hash.null, onLink 3 2⟩
    x.neighbor.sameEndpoint y.neighbor.address y.neighbor.kind = false ∧
      x.neighbor.sameEndpoint z.neighbor.address z.neighbor.kind = false ∧
      v.neighbor.sameEndpoint w.neighbor.address w.neighbor.kind = false ∧
      StaysBeside Request.priority x y ∧ StaysBeside Request.priority v w ∧
      x ∉ (((empty 10).push x.priority x).2.push z.priority z).2.toList := by
  intro x y z v w
  have hports : x.neighbor.sameEndpoint y.neighbor.address y.neighbor.kind = false := by decide
  have htransports : x.neighbor.sameEndpoint z.neighbor.address z.neighbor.kind = false := by decide
  have hlinks : v.neighbor.sameEndpoint w.neighbor.address w.neighbor.kind = false := by decide
  obtain ⟨hrequests, -, -⟩ := work_stays_iff_addresses_differ hports
  obtain ⟨hscoped, -, -⟩ := work_stays_iff_addresses_differ hlinks
  obtain ⟨-, -, hreplaced⟩ := work_stays_iff_addresses_differ htransports
  refine ⟨hports, htransports, hlinks, ((hrequests Hash.null).mpr (by decide)).1,
    ((hscoped Hash.null).mpr (by decide)).1, ?_⟩
  exact (hreplaced rfl).2.1 Hash.null _ ((keyed_empty Request.priority 10).push x)

/-- Two neighbors of one address are both listed, and the work of the one is
    displaced by the work of the other. -/
theorem not_staysBeside_transports :
    let a := nearby 0 .datagram 14600
    let b := nearby 1 .stream 14600
    (Roster.empty.add a).1 = true ∧ ((Roster.empty.add a).2.add b).1 = true ∧
      (∀ h : Hash, ¬ StaysBeside Request.priority ⟨h, a⟩ ⟨h, b⟩) ∧
      ∀ t : Transaction, ¬ StaysBeside Received.priority ⟨t, a⟩ ⟨t, b⟩ := by
  intro a b
  have hne : a ≠ b := fun heq => absurd (congrArg Neighbor.id heq) (by decide)
  refine ⟨by decide, by decide, fun h => ?_, fun t => ?_⟩
  · have hsame := Request.priority_eq_iff (r := ⟨h, b⟩) (s := ⟨h, a⟩) |>.mpr ⟨rfl, rfl⟩
    exact not_staysBeside_of_priority_eq hsame fun heq => hne (Request.mk.inj heq).2
  · have hsame := Received.priority_eq_iff (r := ⟨t, b⟩) (s := ⟨t, a⟩) |>.mpr ⟨rfl, rfl⟩
    exact not_staysBeside_of_priority_eq hsame fun heq => hne (Received.mk.inj heq).2

end Neighbor

end TernaryGossip
