import TernaryGossip.Proofs.Store.Changes
import TernaryGossip.Proofs.Store.KeyOrder
import TernaryGossip.Proofs.Tangle.LedgerRecords

/-! # Milestones that were seen

    A node keeps the milestones that it created, asked for or came across
    beside its store.  Three rules fill what was seen: a milestone that is
    created replaces what was there, one that is asked for is put under the
    number that was asked for, and one that is come across is put under the
    number that its record tells, unless something is there.  Deleting a
    milestone forgets it.

    Over one fault-free provider, as long as the node alone writes
    milestones, nothing that was seen differs from what is stored.  So it
    makes no difference to the milestone of a number whether it was seen. -/

namespace TernaryGossip

namespace Milestones

/-! ## What is stored -/

/-- What the record of a number says, if there is one. -/
def ofRecord : Option Bytes → Except StorageError (Option Milestone)
  | none => .ok none
  | some b => (Milestone.reader.run b).map some

/-- Every record is that of a milestone with a proper hash, under its number. -/
def Records (t : Table) : Prop :=
  ∀ key b, t.get? key = some b →
    ∃ m : Milestone, m.hash.Proper ∧ key = Key.ofIndex m.index ∧ b = m.encode

theorem records_empty : Records .empty := fun _ _ h => nomatch h

namespace Records

variable {t : Table} (h : Records t)
include h

theorem insert {m : Milestone} (hproper : m.hash.Proper) :
    Records (t.insert (Key.ofIndex m.index) m.encode) := by
  intro key b hb
  by_cases hkey : key = Key.ofIndex m.index
  · subst hkey
    rw [OrderedMap.get?_insert_self] at hb
    exact ⟨m, hproper, rfl, (Option.some.inj hb).symm⟩
  · rw [OrderedMap.get?_insert_of_ne _ _ hkey] at hb
    exact h key b hb

theorem erase (i : UInt32) : Records (t.erase (Key.ofIndex i)) := by
  intro key b hb
  by_cases hkey : key = Key.ofIndex i
  · subst hkey
    rw [OrderedMap.get?_erase_self] at hb
    cases hb
  · rw [OrderedMap.get?_erase_of_ne _ hkey] at hb
    exact h key b hb

/-- A record is read as the milestone of its key. -/
theorem exists_run {key b : Bytes} (hb : t.get? key = some b) :
    ∃ m : Milestone, Milestone.reader.run b = .ok m ∧ key = Key.ofIndex m.index := by
  obtain ⟨m, hproper, hkey, rfl⟩ := h key b hb
  exact ⟨m, Milestone.run_encode hproper, hkey⟩

theorem exists_ofRecord (key : Bytes) : ∃ found, ofRecord (t.get? key) = .ok found := by
  cases hb : t.get? key with
  | none => exact ⟨none, rfl⟩
  | some b =>
    obtain ⟨m, hm, -⟩ := h.exists_run hb
    exact ⟨some m, by rw [ofRecord, hm]; rfl⟩

end Records

/-! ## What was seen is what is stored -/

/-- Every milestone that was seen is the stored one of its number. -/
def Mirrors (ms : Milestones) (t : Table) : Prop :=
  ∀ i m, ms.seen.get? i = some m → ofRecord (t.get? (Key.ofIndex i)) = .ok (some m)

theorem mirrors_empty (t : Table) : empty.Mirrors t := fun _ _ h => nomatch h

theorem seen_observe (ms : Milestones) (m : Milestone) : (ms.observe m).seen = ms.seen := by
  unfold observe
  split
  · rfl
  · split
    · rfl
    · rfl

namespace Mirrors

variable {ms : Milestones} {t : Table} (h : ms.Mirrors t)
include h

theorem observe (m : Milestone) : (ms.observe m).Mirrors t := by
  intro i m' hm'
  rw [seen_observe] at hm'
  exact h i m' hm'

/-- What happens to one number leaves the others as they are. -/
theorem at_number {ms' : Milestones} {t' : Table} (i : UInt32)
    (hseen : ∀ j, j ≠ i → ms'.seen.get? j = ms.seen.get? j)
    (htable : ∀ j, Key.ofIndex j ≠ Key.ofIndex i →
      t'.get? (Key.ofIndex j) = t.get? (Key.ofIndex j))
    (hnumber : ∀ m, ms'.seen.get? i = some m → ofRecord (t'.get? (Key.ofIndex i)) = .ok (some m)) :
    ms'.Mirrors t' := by
  intro j m hm
  by_cases hj : j = i
  · subst hj
    exact hnumber m hm
  · have hkey : Key.ofIndex j ≠ Key.ofIndex i := fun heq => hj (Key.ofIndex_inj.mp heq)
    rw [hseen j hj] at hm
    rw [htable j hkey]
    exact h j m hm

/-- A stored milestone may be put among those seen. -/
theorem see {i : UInt32} {m : Milestone}
    (hstored : ofRecord (t.get? (Key.ofIndex i)) = .ok (some m)) :
    ({ ms with seen := ms.seen.insert i m } : Milestones).Mirrors t := by
  refine h.at_number i (fun j hj => OrderedMap.get?_insert_of_ne _ _ hj) (fun _ _ => rfl) ?_
  intro m' hm'
  rw [OrderedMap.get?_insert_self] at hm'
  rw [hstored, Option.some.inj hm']

/-- A milestone that is stored takes the place of what was seen. -/
theorem create {m : Milestone} (hproper : m.hash.Proper) :
    (({ ms with seen := ms.seen.insert m.index m } : Milestones).observe m).Mirrors
      (t.insert (Key.ofIndex m.index) m.encode) := by
  apply Mirrors.observe
  refine h.at_number m.index (fun j hj => OrderedMap.get?_insert_of_ne _ _ hj)
    (fun j hj => OrderedMap.get?_insert_of_ne _ _ hj) ?_
  intro m' hm'
  rw [OrderedMap.get?_insert_self] at hm'
  rw [OrderedMap.get?_insert_self, ← Option.some.inj hm', ofRecord, Milestone.run_encode hproper]
  rfl

/-- What is deleted is seen no longer. -/
theorem delete (i : UInt32) :
    ({ ms with seen := ms.seen.erase i } : Milestones).Mirrors (t.erase (Key.ofIndex i)) := by
  refine h.at_number i (fun j hj => OrderedMap.get?_erase_of_ne _ hj)
    (fun j hj => OrderedMap.get?_erase_of_ne _ hj) ?_
  intro m hm
  rw [OrderedMap.get?_erase_self] at hm
  cases hm

/-- A milestone that is come across is the stored one of its number. -/
theorem note (hrecords : Records t) {found : Option (Bytes × Bytes)}
    (hfound : ∀ key b, found = some (key, b) → t.get? key = some b) :
    (ms.note (.ok found)).2.Mirrors t := by
  cases found with
  | none => exact h
  | some e =>
    obtain ⟨key, b⟩ := e
    have hb := hfound key b rfl
    obtain ⟨m, hm, rfl⟩ := hrecords.exists_run hb
    have hstored : ofRecord (t.get? (Key.ofIndex m.index)) = .ok (some m) := by
      rw [hb, ofRecord, hm]
      rfl
    simp only [Milestones.note, hm]
    split
    · exact h
    · exact h.see hstored

omit h in
/-- What a search comes across is seen on the way. -/
theorem search {s : Store} {move : Milestones → UInt32 → Found}
    (hmove : ∀ {ms : Milestones} (i : UInt32), ms.Mirrors t → (move ms i).2.Mirrors t)
    (steps : Nat) {found : Found} (h : found.2.Mirrors t) :
    (Milestones.search s move steps found).2.Mirrors t := by
  induction steps generalizing found with
  | zero =>
    obtain ⟨answer, ms⟩ := found
    cases answer with
    | error e => exact h
    | ok m => exact h
  | succ steps ih =>
    obtain ⟨answer, ms⟩ := found
    cases answer with
    | error e => exact h
    | ok m =>
      cases m with
      | none => exact h
      | some m =>
        unfold Milestones.search
        split
        · exact h
        · exact h
        · exact ih (hmove m.index h)

end Mirrors

/-! ## Creating and deleting -/

section changing
variable {s : Store} {T : Tables} (hkeeps : s.Keeps T) (ms : Milestones)
include hkeeps

theorem create_of_keeps (m : Milestone) :
    ∃ s', ms.create s m.index m.hash =
        (.ok true, ({ ms with seen := ms.seen.insert m.index m } : Milestones).observe m, s') ∧
      s'.Keeps (T.put .milestone (Key.ofIndex m.index) m.encode) := by
  obtain ⟨s', hsave, hkeeps'⟩ := hkeeps.save .milestone (Key.ofIndex m.index) m.encode
  refine ⟨s', ?_, hkeeps'⟩
  simp only [create, hsave]

theorem delete_of_keeps (i : UInt32) :
    ∃ s', ms.delete s i = (.ok (), { ms with seen := ms.seen.erase i }, s') ∧
      s'.Keeps (T.remove .milestone (Key.ofIndex i)) := by
  obtain ⟨s', hdelete, hkeeps'⟩ := hkeeps.delete .milestone (Key.ofIndex i)
  refine ⟨s', ?_, hkeeps'⟩
  simp only [delete, hdelete]

end changing

/-! ## Asking -/

/-- A question about milestones. -/
inductive Question
  /-- The milestone of a number. -/
  | get (index : UInt32)
  /-- The one with the least number. -/
  | first
  /-- The one with the greatest number. -/
  | last
  /-- The next one above a number. -/
  | next (index : UInt32)
  /-- The next one below a number. -/
  | previous (index : UInt32)
  /-- The nearest one up to a number. -/
  | atOrBefore (index : UInt32)
  /-- The nearest one from a number on. -/
  | atOrAfter (index : UInt32)
  /-- The last one, which becomes known. -/
  | loadLatest
  /-- The first one with a snapshot. -/
  | firstWithSnapshot
  /-- The last one with a snapshot. -/
  | lastWithSnapshot
  /-- The first one above a number with a snapshot. -/
  | nextWithSnapshot (index : UInt32)

/-- The answer to a question. -/
def ask (ms : Milestones) (s : Store) : Question → Found
  | .get i => ms.get s i
  | .first => ms.first s
  | .last => ms.last s
  | .next i => ms.next s i
  | .previous i => ms.previous s i
  | .atOrBefore i => ms.atOrBefore s i
  | .atOrAfter i => ms.atOrAfter s i
  | .loadLatest => ms.loadLatest s
  | .firstWithSnapshot => ms.firstWithSnapshot s
  | .lastWithSnapshot => ms.lastWithSnapshot s
  | .nextWithSnapshot i => ms.nextWithSnapshot s i

section asking
variable {ms : Milestones} {s : Store} {T : Tables} (hkeeps : s.Keeps T)
variable (hrecords : Records (T.table .milestone)) (h : ms.Mirrors (T.table .milestone))
include hkeeps hrecords h

/-- The milestone of a number is the stored one, and it is the stored one
    that is seen on the way. -/
theorem get_of_mirrors (i : UInt32) :
    (ms.get s i).1 = ofRecord ((T.table .milestone).get? (Key.ofIndex i)) ∧
      (ms.get s i).2.Mirrors (T.table .milestone) := by
  unfold get
  cases hseen : ms.seen.get? i with
  | some m => exact ⟨(h i m hseen).symm, h⟩
  | none =>
    rw [hkeeps.get]
    cases hb : (T.table .milestone).get? (Key.ofIndex i) with
    | none => exact ⟨rfl, h⟩
    | some b =>
      obtain ⟨m, hm, -⟩ := hrecords.exists_run hb
      have hstored : ofRecord (some b) = .ok (some m) := by
        rw [ofRecord, hm]
        rfl
      simp only [hm]
      exact ⟨hstored.symm, h.see (by rw [hb, hstored])⟩

theorem Mirrors.first : (ms.first s).2.Mirrors (T.table .milestone) := by
  rw [Milestones.first, hkeeps.first]
  exact h.note hrecords fun _ _ => OrderedMap.get?_of_first?

theorem Mirrors.last : (ms.last s).2.Mirrors (T.table .milestone) := by
  rw [Milestones.last, hkeeps.last]
  exact h.note hrecords fun _ _ => OrderedMap.get?_of_last?

theorem Mirrors.next (i : UInt32) : (ms.next s i).2.Mirrors (T.table .milestone) := by
  rw [Milestones.next, hkeeps.next]
  exact h.note hrecords fun _ _ => OrderedMap.get?_of_next?

theorem Mirrors.previous (i : UInt32) : (ms.previous s i).2.Mirrors (T.table .milestone) := by
  rw [Milestones.previous, hkeeps.previous]
  exact h.note hrecords fun _ _ => OrderedMap.get?_of_previous?

/-- No question makes what was seen differ from what is stored. -/
theorem Mirrors.ask (q : Question) : (ms.ask s q).2.Mirrors (T.table .milestone) := by
  cases q with
  | get i => exact (get_of_mirrors hkeeps hrecords h i).2
  | first => exact h.first hkeeps hrecords
  | last => exact h.last hkeeps hrecords
  | next i => exact h.next hkeeps hrecords i
  | previous i => exact h.previous hkeeps hrecords i
  | atOrBefore i =>
    simp only [Milestones.ask, atOrBefore]
    split
    · exact h.last hkeeps hrecords
    · exact h.previous hkeeps hrecords _
  | atOrAfter i =>
    simp only [Milestones.ask, atOrAfter]
    split
    · exact h.first hkeeps hrecords
    · exact h.next hkeeps hrecords _
  | loadLatest =>
    have hlast := h.last hkeeps hrecords
    simp only [Milestones.ask, loadLatest]
    split
    · next m ms' heq =>
      rw [heq] at hlast
      exact hlast.observe m
    · exact hlast
  | firstWithSnapshot =>
    exact Mirrors.search (fun i hms => hms.next hkeeps hrecords i) _ (h.first hkeeps hrecords)
  | lastWithSnapshot =>
    exact Mirrors.search (fun i hms => hms.previous hkeeps hrecords i) _ (h.last hkeeps hrecords)
  | nextWithSnapshot i =>
    exact Mirrors.search (fun i hms => hms.next hkeeps hrecords i) _ (h.next hkeeps hrecords i)

end asking

/-! ## Runs -/

/-- What may happen to milestones and their store. -/
inductive Step
  /-- A milestone is created. -/
  | create (index : UInt32) (hash : Hash)
  /-- The milestone of a number is deleted. -/
  | delete (index : UInt32)
  /-- Something is asked. -/
  | ask (q : Question)
  /-- Someone changes records. -/
  | change (c : Change)

/-- The hash that is created is proper, and nobody else writes milestones. -/
def Step.Proper : Step → Prop
  | .create _ hash => hash.Proper
  | .delete _ => True
  | .ask _ => True
  | .change c => ∀ e ∈ c.edits, e.partition ≠ .milestone

/-- The milestones and the store once something happened. -/
def take (now : Milestones × Store) : Step → Milestones × Store
  | .create index hash => (now.1.create now.2 index hash).2
  | .delete index => (now.1.delete now.2 index).2
  | .ask q => ((now.1.ask now.2 q).2, now.2)
  | .change c => (now.1, (now.2.change c).2)

/-- What there is after several steps, when nothing was seen before. -/
def run (s : Store) (es : List Step) : Milestones × Store := es.foldl take (empty, s)

/-- A provider keeps proper records, and what was seen is what it keeps. -/
def Faithful (now : Milestones × Store) : Prop :=
  ∃ T : Tables, now.2.Keeps T ∧ Records (T.table .milestone) ∧ now.1.Mirrors (T.table .milestone)

theorem Faithful.take {now : Milestones × Store} (h : Faithful now) {e : Step} (he : e.Proper) :
    Faithful (take now e) := by
  obtain ⟨ms, s⟩ := now
  obtain ⟨T, hkeeps, hrecords, hmirrors⟩ := h
  cases e with
  | create index hash =>
    obtain ⟨s', hcreate, hkeeps'⟩ := create_of_keeps hkeeps ms ⟨index, hash⟩
    rw [Milestones.take, hcreate]
    refine ⟨_, hkeeps', ?_, ?_⟩
    · rw [Tables.table_put_self]
      exact hrecords.insert he
    · rw [Tables.table_put_self]
      exact hmirrors.create he
  | delete index =>
    obtain ⟨s', hdelete, hkeeps'⟩ := delete_of_keeps hkeeps ms index
    rw [Milestones.take, hdelete]
    refine ⟨_, hkeeps', ?_, ?_⟩
    · rw [Tables.table_remove_self]
      exact hrecords.erase index
    · rw [Tables.table_remove_self]
      exact hmirrors.delete index
  | ask q => exact ⟨T, hkeeps, hrecords, hmirrors.ask hkeeps hrecords q⟩
  | change c =>
    have hedits : Change.allEdits [c] = c.edits := List.append_nil _
    have helsewhere : (T.changed [c]).table .milestone = T.table .milestone :=
      Edit.table_foldl_apply (by rw [hedits]; exact he) T
    refine ⟨T.changed [c], ?_, ?_, ?_⟩
    · rw [Milestones.take, hkeeps.faultFree.change_eq]
      exact hkeeps.changeAll [c]
    · rw [helsewhere]
      exact hrecords
    · rw [helsewhere]
      exact hmirrors

theorem Faithful.foldl {now : Milestones × Store} (h : Faithful now) {es : List Step}
    (hes : ∀ e ∈ es, e.Proper) : Faithful (es.foldl Milestones.take now) := by
  induction es generalizing now with
  | nil => exact h
  | cons e es ih =>
    exact ih (h.take (hes e List.mem_cons_self)) fun x hx => hes x (List.mem_cons_of_mem e hx)

/-- Over one fault-free provider whose milestones are written by the node
    alone, or are such as it writes, asking for a number gives in every run
    what the stored record says, or nothing if there is none, and does not
    fail.  Every milestone that was seen is the stored one of its number. -/
theorem get_eq_stored {s : Store} {T : Tables} (hkeeps : s.Keeps T)
    (hrecords : Records (T.table .milestone)) {es : List Step} (hproper : ∀ e ∈ es, e.Proper) :
    let ms := (run s es).1
    let s' := (run s es).2
    ∀ i, (ms.get s' i).1 = (s'.get .milestone (Key.ofIndex i) >>= ofRecord) ∧
      (∃ found, (ms.get s' i).1 = .ok found) ∧
      ∀ m, ms.seen.get? i = some m →
        (s'.get .milestone (Key.ofIndex i) >>= ofRecord) = .ok (some m) := by
  have hstart : Faithful (empty, s) := ⟨T, hkeeps, hrecords, mirrors_empty _⟩
  have hend : Faithful (run s es) := hstart.foldl hproper
  obtain ⟨T', hkeeps', hrecords', hmirrors⟩ := hend
  intro ms s' i
  have hget := (get_of_mirrors hkeeps' hrecords' hmirrors i).1
  have hstored : (s'.get .milestone (Key.ofIndex i) >>= ofRecord) =
      ofRecord ((T'.table .milestone).get? (Key.ofIndex i)) := by
    rw [hkeeps'.get]
    rfl
  rw [hstored]
  refine ⟨hget, ?_, hmirrors i⟩
  obtain ⟨found, hfound⟩ := hrecords'.exists_ofRecord (Key.ofIndex i)
  exact ⟨found, hget.trans hfound⟩

/-- Of two milestones one is deleted, a snapshot of the other is stored, and
    it is found by a search before another one takes its place. -/
def replacedNine : List Step :=
  [ .create 7 (Hash.ofTrits [1]),
    .create 9 (Hash.ofTrits [0, 1]),
    .ask .last,
    .delete 7,
    .change (.save .stateDiff (Key.ofHash (Hash.ofTrits [0, 1])) []),
    .ask .firstWithSnapshot,
    .create 9 (Hash.ofTrits [-1]) ]

theorem get_eq_stored_replacedNine :
    let s : Store := ⟨[Provider.fresh "memory"]⟩
    s.Keeps .empty ∧ Records (Tables.table .empty .milestone) ∧ (∀ e ∈ replacedNine, e.Proper) ∧
      ∃ found, ((run s replacedNine).1.get (run s replacedNine).2 9).1 = .ok found ∧
        ((run s replacedNine).2.get .milestone (Key.ofIndex 9) >>= ofRecord) = .ok found := by
  intro s
  have hkeeps : s.Keeps .empty := Store.keeps_fresh "memory"
  have hrecords : Records (Tables.table .empty .milestone) := records_empty
  have hproper : ∀ e ∈ replacedNine, e.Proper := by
    simp only [replacedNine, List.forall_mem_cons, Step.Proper]
    refine ⟨⟨_, by decide, rfl⟩, ⟨_, by decide, rfl⟩, trivial, trivial, by decide, trivial,
      ⟨_, by decide, rfl⟩, fun _ h => absurd h List.not_mem_nil⟩
  obtain ⟨hget, ⟨found, hfound⟩, -⟩ := get_eq_stored hkeeps hrecords hproper 9
  exact ⟨hkeeps, hrecords, hproper, found, hfound, hget ▸ hfound⟩

end Milestones

end TernaryGossip
