import TernaryGossip.Proofs.Store.Overlay
import TernaryGossip.Proofs.Tangle.MilestoneNeighbors

/-! # Searching for a snapshot

    A search for a milestone with a snapshot asks for the next one again and
    again, each time from the number that the last record told, until one
    has a snapshot or there are no more.  Nothing in it bounds the number of
    milestones that are passed.

    Each milestone that is passed is left behind, because the numbers go one
    way; so the search comes to an end, before it has passed as many as there
    are records.  None that is passed has a snapshot, so the first one that
    has is also the first of all that have.

    A snapshot might be there if changes of the ledger are stored under the
    hash of the milestone.  A vague provider says so of every hash. -/

namespace TernaryGossip

namespace Milestones

/-! ## A search without a bound -/

/-- How a search goes on from what was found, and with what it ends. -/
inductive Searches (s : Store) (move : Milestones → UInt32 → Found) : Found → Found → Prop
  /-- Moving failed. -/
  | failed (e : StorageError) (ms : Milestones) : Searches s move (.error e, ms) (.error e, ms)
  /-- There are no more milestones. -/
  | ended (ms : Milestones) : Searches s move (.ok none, ms) (.ok none, ms)
  /-- Asking for a snapshot failed. -/
  | unanswered {m : Milestone} {e : StorageError} (ms : Milestones)
      (h : m.hasSnapshot s = .error e) : Searches s move (.ok (some m), ms) (.error e, ms)
  /-- The milestone has a snapshot. -/
  | found {m : Milestone} (ms : Milestones) (h : m.hasSnapshot s = .ok true) :
      Searches s move (.ok (some m), ms) (.ok (some m), ms)
  /-- The milestone has none and is passed. -/
  | passed {m : Milestone} {ms : Milestones} {last : Found} (h : m.hasSnapshot s = .ok false)
      (hrest : Searches s move (move ms m.index) last) : Searches s move (.ok (some m), ms) last

/-- A search ends in one way. -/
theorem Searches.unique {s : Store} {move : Milestones → UInt32 → Found} {start last last' : Found}
    (h : Searches s move start last) (h' : Searches s move start last') : last = last' := by
  induction h with
  | failed e ms => cases h'; rfl
  | ended ms => cases h'; rfl
  | unanswered ms hasked =>
    cases h' with
    | unanswered _ hasked' => rw [Except.error.inj (hasked.symm.trans hasked')]
    | found _ hasked' => cases hasked.symm.trans hasked'
    | passed hasked' _ => cases hasked.symm.trans hasked'
  | found ms hasked =>
    cases h' with
    | unanswered _ hasked' => cases hasked.symm.trans hasked'
    | found _ _ => rfl
    | passed hasked' _ => cases hasked.symm.trans hasked'
  | passed hasked _ ih =>
    cases h' with
    | unanswered _ hasked' => cases hasked.symm.trans hasked'
    | found _ hasked' => cases hasked.symm.trans hasked'
    | passed _ hrest => exact ih hrest

/-! ## Milestones in front -/

/-- The milestones that the records tell. -/
def told (t : Table) : List Milestone :=
  t.entries.filterMap fun e => (Milestone.reader.run e.2).toOption

theorem length_told_le (t : Table) : (told t).length ≤ t.size := List.length_filterMap_le _ _

theorem Tells.mem_told {t : Table} {m : Milestone} (h : Tells t m) : m ∈ told t := by
  obtain ⟨b, hb⟩ := h.exists_get?
  refine List.mem_filterMap.mpr ⟨(Key.ofIndex m.index, b),
    (OrderedMap.mem_entries_iff t _ _).mpr hb, ?_⟩
  unfold Tells at h
  rw [hb, ofRecord] at h
  cases hrun : Milestone.reader.run b with
  | error e =>
    rw [hrun] at h
    cases h
  | ok m' =>
    rw [hrun] at h
    obtain rfl : m' = m := Option.some.inj (Except.ok.inj h)
    rfl

/-- One number has one milestone. -/
theorem Tells.unique {t : Table} {m m' : Milestone} (h : Tells t m) (h' : Tells t m')
    (hindex : m.index = m'.index) : m = m' := by
  unfold Tells at h h'
  rw [hindex, h'] at h
  exact (Option.some.inj (Except.ok.inj h)).symm

section searching
variable {s : Store} {t : Table} (ahead : UInt32 → UInt32 → Prop)
  {move : Milestones → UInt32 → Found} {snapped : Milestone → Bool}
  (hirrefl : ∀ i, ¬ ahead i i) (htrans : ∀ i j k, ahead i j → ahead j k → ahead i k)
  (htotal : ∀ i j, ahead i j ∨ i = j ∨ ahead j i)
  (hmove : ∀ ms i, ∃ answer, (move ms i).1 = .ok answer ∧
    Foremost (fun a b => ahead a.index b.index) (fun m => Tells t m ∧ ahead i m.index) answer)
  (hsnapped : ∀ m : Milestone, m.hasSnapshot s = .ok (snapped m))

include htotal in
/-- If the foremost milestone of some has no snapshot, then those of them that
    have one are all in front of it. -/
theorem ahead_of_passed {among : UInt32 → Prop} (hreach : ∀ i j, among i → ahead i j → among j)
    {m : Milestone} (hm : Tells t m ∧ among m.index)
    (hfirst : ∀ c, Tells t c ∧ among c.index → ¬ ahead c.index m.index)
    (hnone : snapped m = false) :
    (fun c => (Tells t c ∧ ahead m.index c.index) ∧ snapped c = true) =
      fun c => (Tells t c ∧ among c.index) ∧ snapped c = true := by
  obtain ⟨htells, hamong⟩ := hm
  funext c
  apply propext
  constructor
  · rintro ⟨⟨hc, hahead⟩, hshown⟩
    exact ⟨⟨hc, hreach _ _ hamong hahead⟩, hshown⟩
  · rintro ⟨⟨hc, hcamong⟩, hshown⟩
    refine ⟨⟨hc, ?_⟩, hshown⟩
    rcases htotal m.index c.index with hahead | hsame | hbehind
    · exact hahead
    · -- of the same number there is only the one without a snapshot
      rw [htells.unique hc hsame, hshown] at hnone
      cases hnone
    · exact absurd hbehind (hfirst c ⟨hc, hcamong⟩)

include hirrefl htrans htotal hmove hsnapped in
/-- A search that begins with the foremost milestone in some part of the
    numbers, which reaches as far ahead as there are numbers, ends with the
    foremost one there that has a snapshot.  What carries the induction is
    the list `left` of the milestones that may still come: the one that is
    passed leaves it. -/
theorem searches_search {steps : Nat} {found : Found} {among : UInt32 → Prop}
    {left : List Milestone} {answer : Option Milestone} (hsteps : left.length < steps)
    (hleft : ∀ m, Tells t m → among m.index → m ∈ left)
    (hreach : ∀ i j, among i → ahead i j → among j) (hfound : found.1 = .ok answer)
    (hfore : Foremost (fun a b => ahead a.index b.index) (fun m => Tells t m ∧ among m.index)
      answer) :
    Searches s move found (search s move steps found) ∧
      ∃ last, (search s move steps found).1 = .ok last ∧
        Foremost (fun a b => ahead a.index b.index)
          (fun m => (Tells t m ∧ among m.index) ∧ snapped m = true) last := by
  induction steps generalizing found among left answer with
  | zero => exact absurd hsteps (Nat.not_lt_zero _)
  | succ steps ih =>
    obtain ⟨_, ms⟩ := found
    obtain rfl := hfound
    cases answer with
    | none => exact ⟨.ended ms, none, rfl, fun m hm => hfore m hm.1⟩
    | some m =>
      obtain ⟨⟨htells, hamong⟩, hfirst⟩ := hfore
      have hasked := hsnapped m
      cases hm : snapped m with
      | true =>
        rw [hm] at hasked
        simp only [search, hasked]
        exact ⟨.found ms hasked, some m, rfl, ⟨⟨htells, hamong⟩, hm⟩,
          fun c hc => hfirst c hc.1⟩
      | false =>
        rw [hm] at hasked
        simp only [search, hasked]
        obtain ⟨next, hnext, hfore'⟩ := hmove ms m.index
        have hin : m ∈ left := hleft m htells hamong
        have hne : ∀ c : Milestone, ahead m.index c.index → c ≠ m := by
          rintro c hahead rfl
          exact hirrefl _ hahead
        have hshort : (left.erase m).length < steps := by
          have hpos := List.length_pos_of_mem hin
          rw [List.length_erase_of_mem hin]
          omega
        have hleft' : ∀ c, Tells t c → ahead m.index c.index → c ∈ left.erase m := by
          intro c hc hahead
          exact (List.mem_erase_of_ne (hne c hahead)).mpr
            (hleft c hc (hreach _ _ hamong hahead))
        obtain ⟨hsearches, last, hlast, hforelast⟩ :=
          ih hshort hleft' (fun i j hi hij => htrans _ i j hi hij) hnext hfore'
        have hkind := ahead_of_passed ahead htotal hreach ⟨htells, hamong⟩ hfirst hm
        rw [hkind] at hforelast
        exact ⟨.passed hasked hsearches, last, hlast, hforelast⟩

end searching

/-! ## Upwards and downwards -/

section scanning
variable {s : Store} {T : Tables} (hkeeps : s.Keeps T)

include hkeeps in
/-- Fewer milestones are told than the bound allows to pass. -/
theorem length_told_lt_bound : (told (T.table .milestone)).length < bound s := by
  rw [bound, hkeeps.totalSize]
  exact Nat.lt_succ_of_le (length_told_le _)

variable (hrecords : Records (T.table .milestone)) {snapped : Milestone → Bool}
  (hsnapped : ∀ m : Milestone, m.hasSnapshot s = .ok (snapped m))
  {found : Found} {answer : Option Milestone} (hfound : found.1 = .ok answer)
include hkeeps hrecords hsnapped hfound

theorem searches_next (among : UInt32 → Prop) (hreach : ∀ i j, among i → i < j → among j)
    (hleast : Least (fun m => Tells (T.table .milestone) m ∧ among m.index) answer) :
    Searches s (fun ms => ms.next s) found (search s (fun ms => ms.next s) (bound s) found) ∧
      ∃ last, (search s (fun ms => ms.next s) (bound s) found).1 = .ok last ∧
        Least (fun m => (Tells (T.table .milestone) m ∧ among m.index) ∧ snapped m = true) last :=
  searches_search (· < ·) UInt32.lt_irrefl (fun _ _ _ => UInt32.lt_trans) Std.lt_trichotomy
    (fun ms i => next_least hkeeps hrecords ms i) hsnapped (length_told_lt_bound hkeeps)
    (fun _ hm _ => hm.mem_told) hreach hfound hleast

theorem searches_previous (among : UInt32 → Prop) (hreach : ∀ i j, among i → j < i → among j)
    (hgreatest : Greatest (fun m => Tells (T.table .milestone) m ∧ among m.index) answer) :
    Searches s (fun ms => ms.previous s) found
        (search s (fun ms => ms.previous s) (bound s) found) ∧
      ∃ last, (search s (fun ms => ms.previous s) (bound s) found).1 = .ok last ∧
        Greatest (fun m => (Tells (T.table .milestone) m ∧ among m.index) ∧ snapped m = true)
          last :=
  searches_search (fun i j => j < i) UInt32.lt_irrefl
    (fun _ _ _ hij hjk => UInt32.lt_trans hjk hij)
    (fun i j => (Std.lt_trichotomy j i).imp_right (Or.imp_left Eq.symm))
    (fun ms i => previous_greatest hkeeps hrecords ms i) hsnapped (length_told_lt_bound hkeeps)
    (fun _ hm _ => hm.mem_told) hreach hfound hgreatest

end scanning

/-! ## Changes of the ledger in a run -/

/-- The changes of records that a step makes. -/
def Step.changes : Step → List Change
  | .create i hash => [.save .milestone (Key.ofIndex i) (Milestone.encode ⟨i, hash⟩)]
  | .delete i => [.delete .milestone (Key.ofIndex i)]
  | .ask _ => []
  | .change c => [c]

theorem take_store (now : Milestones × Store) (e : Step) :
    (take now e).2 = now.2.changeAll e.changes := by
  cases e with
  | create i hash =>
    simp only [take, create, Step.changes, Store.changeAll, List.foldl_cons, List.foldl_nil,
      Store.change]
    split <;> next hsave => rw [hsave]
  | delete i =>
    simp only [take, delete, Step.changes, Store.changeAll, List.foldl_cons, List.foldl_nil,
      Store.change]
    split <;> next hdelete => rw [hdelete]
  | ask q => rfl
  | change c => rfl

/-- The store after a run has made the changes of all steps. -/
theorem run_store (s : Store) (es : List Step) :
    (run s es).2 = s.changeAll (es.flatMap Step.changes) := by
  induction es using List.reverseRecOn with
  | nil => rfl
  | append_singleton es e ih =>
    rw [run, List.foldl_concat, take_store]
    show (run s es).2.changeAll e.changes = _
    rw [ih, List.flatMap_append, List.flatMap_singleton, Store.changeAll, Store.changeAll,
      Store.changeAll, List.foldl_append]

/-- Changes of the ledger are stored under a hash after a run: the last step
    that touched their record wrote it, or none touched it and it was there
    before. -/
def LeavesChanges (s : Store) (es : List Step) (h : Hash) : Bool :=
  (Edit.final (Change.allEdits (es.flatMap Step.changes)) .stateDiff (Key.ofHash h)
    (s.held .stateDiff (Key.ofHash h))).isSome

theorem hasSnapshot_run {s : Store} (hfree : s.FaultFree) (es : List Step) (m : Milestone) :
    m.hasSnapshot (run s es).2 =
      .ok (LeavesChanges s es m.hash || s.providers.any (·.vague)) := by
  rw [Milestone.hasSnapshot, StateDiff.isStored, run_store, hfree.mayContain_changeAll,
    hfree.held_changeAll]
  rfl

/-- Changes of the ledger are stored. -/
def Step.storing (d : StateDiff) : Step :=
  .change (.save .stateDiff (Key.ofHash d.hash) d.encode)

/-- They are removed. -/
def Step.removing (h : Hash) : Step := .change (.delete .stateDiff (Key.ofHash h))

theorem take_storing (now : Milestones × Store) (d : StateDiff) :
    take now (.storing d) = (now.1, (d.store now.2).2) := rfl

theorem take_removing (now : Milestones × Store) (h : Hash) :
    take now (.removing h) = (now.1, (StateDiff.delete now.2 h).2) := rfl

theorem leavesChanges_concat (s : Store) (es : List Step) {e : Step} {edit : Edit}
    (he : Change.allEdits e.changes = [edit]) (h : Hash) :
    LeavesChanges s (es ++ [e]) h =
      if edit.partition = .stateDiff ∧ edit.key = Key.ofHash h then edit.value.isSome
      else LeavesChanges s es h := by
  have hedits : Change.allEdits ((es ++ [e]).flatMap Step.changes) =
      Change.allEdits (es.flatMap Step.changes) ++ [edit] := by
    rw [← he, List.flatMap_append, List.flatMap_singleton]
    exact List.flatMap_append
  rw [LeavesChanges, LeavesChanges, hedits, Edit.final_concat, apply_ite Option.isSome]

/-- Changes that are stored stand under their hash, beside all others. -/
theorem leavesChanges_storing (s : Store) (es : List Step) (d : StateDiff) (h : Hash) :
    LeavesChanges s (es ++ [.storing d]) h = (decide (d.hash = h) || LeavesChanges s es h) := by
  have hedit : Change.allEdits (Step.storing d).changes =
      [⟨.stateDiff, Key.ofHash d.hash, some d.encode⟩] := rfl
  rw [leavesChanges_concat s es hedit]
  by_cases hh : d.hash = h <;> simp [Key.ofHash_inj, hh]

/-- Changes that are removed do not, and no others are removed with them. -/
theorem leavesChanges_removing (s : Store) (es : List Step) (g h : Hash) :
    LeavesChanges s (es ++ [.removing g]) h = (!decide (g = h) && LeavesChanges s es h) := by
  have hedit : Change.allEdits (Step.removing g).changes =
      [⟨.stateDiff, Key.ofHash g, none⟩] := rfl
  rw [leavesChanges_concat s es hedit]
  by_cases hh : g = h <;> simp [Key.ofHash_inj, hh]

/-- They are what the store has under the hash after the run. -/
theorem leavesChanges_iff {s : Store} (hfree : s.FaultFree) (es : List Step) (h : Hash) :
    LeavesChanges s es h = true ↔
      ∃ b, (run s es).2.get .stateDiff (Key.ofHash h) = .ok (some b) := by
  have hfree' := (hfree.changeAll (es.flatMap Step.changes)).2
  rw [run_store, hfree'.get_eq_held, hfree.held_changeAll, LeavesChanges, Option.isSome_iff_exists]
  simp only [Except.ok.injEq]

/-! ## What the searches find -/

/-- A search without a bound comes to an end, and in no other way than this,
    and what it answers is of some kind. -/
structure Answers (s : Store) (move : Milestones → UInt32 → Found) (start last : Found)
    (kind : Option Milestone → Prop) : Prop where
  ends : Searches s move start last
  only : ∀ last', Searches s move start last' → last' = last
  answer : ∃ m, last.1 = .ok m ∧ kind m

/-- Over one fault-free provider that had no milestones, however milestones
    were created and deleted and changes of the ledger were stored and
    removed, each search for a snapshot comes to an end without a bound.  It
    finds, among the milestones that stand and have changes of the ledger
    under their hash, the one with the least number, the one with the
    greatest number, and the one with the least number above a given one; it
    finds nothing exactly if there is none.  Changes of the ledger are left
    under a hash if and only if the store has a record of them there.  Only a
    vague provider makes every milestone count as one with changes. -/
theorem scans_find_snapshots {s : Store} {T : Tables} (hkeeps : s.Keeps T)
    (hempty : T.table .milestone = .empty) {es : List Step} (hproper : ∀ e ∈ es, e.Proper) :
    let ms := (run s es).1
    let s' := (run s es).2
    let Snapped := fun m : Milestone => standing es m.index = some m ∧
      (LeavesChanges s es m.hash = true ∨ s.providers.any (·.vague) = true)
    (∀ h, LeavesChanges s es h = true ↔
      ∃ b, s'.get .stateDiff (Key.ofHash h) = .ok (some b)) ∧
    Answers s' (fun ms => ms.next s') (ms.first s') (ms.firstWithSnapshot s') (Least Snapped) ∧
    Answers s' (fun ms => ms.previous s') (ms.last s') (ms.lastWithSnapshot s')
      (Greatest Snapped) ∧
    ∀ i : UInt32,
      Answers s' (fun ms => ms.next s') (ms.next s' i) (ms.nextWithSnapshot s' i)
        (Least fun m => Snapped m ∧ i < m.index) := by
  intro ms s' Snapped
  obtain ⟨T', hkeeps', hrecords, htold⟩ := keeps_run hkeeps hempty hproper
  have hsnapped := hasSnapshot_run hkeeps.faultFree es
  have hkind : ∀ among : UInt32 → Prop,
      (fun m => (Tells (T'.table .milestone) m ∧ among m.index) ∧
        (LeavesChanges s es m.hash || s.providers.any (·.vague)) = true) =
      fun m => Snapped m ∧ among m.index := by
    intro among
    funext m
    rw [Tells, htold, Except.ok.injEq, Bool.or_eq_true, and_right_comm]
  have hanswers : ∀ {move start last kind}, Searches s' move start last ∧
      (∃ m, last.1 = .ok m ∧ kind m) → Answers s' move start last kind :=
    fun h => ⟨h.1, fun _ h' => h'.unique h.1, h.2⟩
  refine ⟨leavesChanges_iff hkeeps.faultFree es, hanswers ?_, hanswers ?_, fun i => hanswers ?_⟩
  · obtain ⟨m, hfound, hleast⟩ := first_least hkeeps' hrecords ms
    have hsearch := searches_next hkeeps' hrecords hsnapped hfound (fun _ => True)
      (fun _ _ _ _ => trivial) (by simpa only [and_true] using hleast)
    have hall := hkind fun _ => True
    simp only [and_true] at hall hsearch
    rwa [hall] at hsearch
  · obtain ⟨m, hfound, hgreatest⟩ := last_greatest hkeeps' hrecords ms
    have hsearch := searches_previous hkeeps' hrecords hsnapped hfound (fun _ => True)
      (fun _ _ _ _ => trivial) (by simpa only [and_true] using hgreatest)
    have hall := hkind fun _ => True
    simp only [and_true] at hall hsearch
    rwa [hall] at hsearch
  · obtain ⟨m, hfound, hleast⟩ := next_least hkeeps' hrecords ms i
    have hsearch := searches_next hkeeps' hrecords hsnapped hfound (i < ·)
      (fun _ _ => UInt32.lt_trans) hleast
    rw [hkind] at hsearch
    exact hsearch

/-- Of three milestones the last two get changes of the ledger, and those of
    the last are removed again. -/
def snapshotOfFive : List Step :=
  [ .create 2 (Hash.ofTrits [1]),
    .create 9 (Hash.ofTrits [-1]),
    .create 5 (Hash.ofTrits [0, 1]),
    .storing ⟨Hash.ofTrits [-1], .empty⟩,
    .storing ⟨Hash.ofTrits [0, 1], .empty⟩,
    .removing (Hash.ofTrits [-1]) ]

theorem standing_snapshotOfFive (i : UInt32) :
    standing snapshotOfFive i =
      if 5 = i then some ⟨5, Hash.ofTrits [0, 1]⟩
      else if 9 = i then some ⟨9, Hash.ofTrits [-1]⟩
      else if 2 = i then some ⟨2, Hash.ofTrits [1]⟩
      else none := by
  simp only [standing, snapshotOfFive, List.foldl_cons, List.foldl_nil, Step.leaves,
    Step.storing, Step.removing]

/-- The milestone in the middle is found from both ends and from the first,
    and there is none above it. -/
theorem scans_find_snapshots_middle :
    let s : Store := ⟨[Provider.memory]⟩
    let ms := (run s snapshotOfFive).1
    let s' := (run s snapshotOfFive).2
    let five : Milestone := ⟨5, Hash.ofTrits [0, 1]⟩
    s.Keeps .empty ∧ Tables.table .empty .milestone = .empty ∧
      (∀ e ∈ snapshotOfFive, e.Proper) ∧
      (ms.firstWithSnapshot s').1 = .ok (some five) ∧
      (ms.lastWithSnapshot s').1 = .ok (some five) ∧
      (ms.nextWithSnapshot s' 2).1 = .ok (some five) ∧
      (ms.nextWithSnapshot s' 5).1 = .ok none := by
  intro s ms s' five
  have hkeeps : s.Keeps .empty := Store.keeps_fresh "memory"
  have hproper : ∀ e ∈ snapshotOfFive, e.Proper := by
    simp only [snapshotOfFive, List.forall_mem_cons, Step.Proper, Step.storing, Step.removing]
    refine ⟨⟨_, by decide, rfl⟩, ⟨_, by decide, rfl⟩, ⟨_, by decide, rfl⟩, by decide, by decide,
      by decide, fun _ h => absurd h List.not_mem_nil⟩
  obtain ⟨-, ⟨-, -, least, hfirst, hleast⟩, ⟨-, -, greatest, hlast, hgreatest⟩, habove⟩ :=
    scans_find_snapshots hkeeps rfl hproper
  obtain ⟨-, -, next, hnext, habovetwo⟩ := habove 2
  obtain ⟨-, -, none', hnone, habovefive⟩ := habove 5
  have hfive : standing snapshotOfFive five.index = some five ∧
      (LeavesChanges s snapshotOfFive five.hash = true ∨ s.providers.any (·.vague) = true) :=
    ⟨standing_snapshotOfFive 5, .inl (by decide)⟩
  have honly : ∀ m : Milestone, standing snapshotOfFive m.index = some m ∧
      (LeavesChanges s snapshotOfFive m.hash = true ∨ s.providers.any (·.vague) = true) →
      m = five := by
    rintro m ⟨hstands, hsnapped⟩
    rw [standing_snapshotOfFive] at hstands
    split at hstands
    · exact (Option.some.inj hstands).symm
    · split at hstands
      · rw [← Option.some.inj hstands] at hsnapped
        exact absurd hsnapped (by decide)
      · split at hstands
        · rw [← Option.some.inj hstands] at hsnapped
          exact absurd hsnapped (by decide)
        · cases hstands
  refine ⟨hkeeps, rfl, hproper, ?_, ?_, ?_, ?_⟩
  · rw [hfirst, hleast.eq_some hfive honly]
  · rw [hlast, hgreatest.eq_some hfive honly]
  · rw [hnext, habovetwo.eq_some ⟨hfive, by decide⟩ fun m hm => honly m hm.1]
  · refine hnone.trans (congrArg Except.ok (habovefive.eq_none ?_))
    rintro m ⟨hm, hlt⟩
    rw [honly m hm] at hlt
    exact absurd hlt (by decide)

end Milestones

end TernaryGossip
