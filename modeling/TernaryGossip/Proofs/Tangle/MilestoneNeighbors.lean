import TernaryGossip.Proofs.Foremost
import TernaryGossip.Proofs.Store.KeyLine
import TernaryGossip.Proofs.Tangle.SeenMilestones

/-! # The neighbours of a number

    A node moves along its milestones by moving along the keys of their
    records.  The keys are ordered as the numbers are, and a record tells the
    number of its key, so the milestone that is found is the one with the
    least or greatest number of all that stand where the search looks.

    A search that includes its own number begins one number before or after
    it.  At zero and at the greatest number there is none, and the search
    begins at the end of the records instead.

    What stands under a number is what was created there last, unless it was
    deleted since. -/

namespace TernaryGossip

/-! ## The next and the previous number -/

namespace Key

theorem lt_indexSucc_iff {i : UInt32} (h : indexSucc i ≠ i) (j : UInt32) :
    j < indexSucc i ↔ j ≤ i := by
  have hsucc := toNat_indexSucc fun hmax => h (indexSucc_eq_self_iff.mpr hmax)
  rw [UInt32.lt_iff_toNat_lt, UInt32.le_iff_toNat_le, hsucc]
  omega

theorem le_of_indexSucc_eq {i : UInt32} (h : indexSucc i = i) (j : UInt32) : j ≤ i := by
  have hmax := indexSucc_eq_self_iff.mp h
  have hlt := j.toNat_lt
  rw [UInt32.le_iff_toNat_le]
  omega

theorem indexPred_lt_iff {i : UInt32} (h : i ≠ 0) (j : UInt32) : indexPred i < j ↔ i ≤ j := by
  have hpos : i.toNat ≠ 0 := fun hzero => h (UInt32.toNat_inj.mp hzero)
  rw [UInt32.lt_iff_toNat_lt, UInt32.le_iff_toNat_le, toNat_indexPred]
  omega

end Key

namespace Milestones

/-! ## One search -/

/-- The milestone of some kind with the least number. -/
def Least (kind : Milestone → Prop) : Option Milestone → Prop :=
  Foremost (fun a b => a.index < b.index) kind

/-- The milestone of some kind with the greatest number. -/
def Greatest (kind : Milestone → Prop) : Option Milestone → Prop :=
  Foremost (fun a b => b.index < a.index) kind

/-- The record of its number tells a milestone. -/
def Tells (t : Table) (m : Milestone) : Prop :=
  ofRecord (t.get? (Key.ofIndex m.index)) = .ok (some m)

theorem Tells.exists_get? {t : Table} {m : Milestone} (h : Tells t m) :
    ∃ b, t.get? (Key.ofIndex m.index) = some b := by
  unfold Tells at h
  cases hb : t.get? (Key.ofIndex m.index) with
  | none =>
    rw [hb] at h
    cases h
  | some b => exact ⟨b, rfl⟩

/-- The foremost record of some kind tells the foremost milestone of this
    kind, if keys are told apart as numbers are. -/
theorem note_foremost {t : Table} (hrecords : Records t) (ms : Milestones)
    (before : Bytes → Bytes → Prop) {ahead : UInt32 → UInt32 → Prop} {kind : Bytes → Prop}
    {among : UInt32 → Prop} (hbefore : ∀ i j, before (Key.ofIndex i) (Key.ofIndex j) ↔ ahead i j)
    (hkind : ∀ i, kind (Key.ofIndex i) ↔ among i) {found : Option (Bytes × Bytes)}
    (hfound : Foremost (fun a b => before a.1 b.1) (fun e => t.get? e.1 = some e.2 ∧ kind e.1)
      found) :
    ∃ answer, (ms.note (.ok found)).1 = .ok answer ∧
      Foremost (fun a b => ahead a.index b.index) (fun m => Tells t m ∧ among m.index) answer := by
  cases found with
  | none =>
    refine ⟨none, rfl, ?_⟩
    rintro m ⟨htells, hamong⟩
    obtain ⟨b, hb⟩ := htells.exists_get?
    exact hfound (Key.ofIndex m.index, b) ⟨hb, (hkind m.index).mpr hamong⟩
  | some e =>
    obtain ⟨key, b⟩ := e
    obtain ⟨⟨hb, hkey⟩, hfirst⟩ := hfound
    obtain ⟨m, hrun, rfl⟩ := hrecords.exists_run hb
    refine ⟨some m, by simp only [note, hrun], ⟨?_, (hkind m.index).mp hkey⟩, ?_⟩
    · show ofRecord (t.get? (Key.ofIndex m.index)) = .ok (some m)
      rw [hb, ofRecord, hrun]
      rfl
    · rintro c ⟨htells, hamong⟩ hahead
      obtain ⟨b', hb'⟩ := htells.exists_get?
      exact hfirst (Key.ofIndex c.index, b') ⟨hb', (hkind c.index).mpr hamong⟩
        ((hbefore c.index m.index).mpr hahead)

section noting
variable {t : Table} (hrecords : Records t) (ms : Milestones) {kind : Bytes → Prop}
  {among : UInt32 → Prop} (hkind : ∀ i, kind (Key.ofIndex i) ↔ among i)
  {found : Option (Bytes × Bytes)}
include hrecords hkind

theorem note_least (hfound : t.Least kind found) :
    ∃ answer, (ms.note (.ok found)).1 = .ok answer ∧
      Least (fun m => Tells t m ∧ among m.index) answer :=
  note_foremost hrecords ms (fun a b => compare a b = .lt) Key.ofIndex_lt_iff hkind hfound

theorem note_greatest (hfound : t.Greatest kind found) :
    ∃ answer, (ms.note (.ok found)).1 = .ok answer ∧
      Greatest (fun m => Tells t m ∧ among m.index) answer :=
  note_foremost hrecords ms (fun a b => compare b a = .lt)
    (fun i j => Key.ofIndex_lt_iff j i) hkind hfound

end noting

/-! ## Every search -/

section searching
variable {s : Store} {T : Tables} (hkeeps : s.Keeps T)
variable (hrecords : Records (T.table .milestone)) (ms : Milestones)
include hkeeps hrecords

theorem first_least :
    ∃ answer, (ms.first s).1 = .ok answer ∧ Least (Tells (T.table .milestone)) answer := by
  have hanswer := note_least hrecords ms (fun _ => Iff.rfl) (T.table .milestone).least_first?
  rw [first, hkeeps.first]
  simpa only [and_true] using hanswer

theorem last_greatest :
    ∃ answer, (ms.last s).1 = .ok answer ∧ Greatest (Tells (T.table .milestone)) answer := by
  have hanswer := note_greatest hrecords ms (fun _ => Iff.rfl) (T.table .milestone).greatest_last?
  rw [last, hkeeps.last]
  simpa only [and_true] using hanswer

theorem next_least (i : UInt32) :
    ∃ answer, (ms.next s i).1 = .ok answer ∧
      Least (fun m => Tells (T.table .milestone) m ∧ i < m.index) answer := by
  rw [next, hkeeps.next]
  exact note_least hrecords ms (Key.ofIndex_lt_iff i) ((T.table .milestone).least_next? _)

theorem previous_greatest (i : UInt32) :
    ∃ answer, (ms.previous s i).1 = .ok answer ∧
      Greatest (fun m => Tells (T.table .milestone) m ∧ m.index < i) answer := by
  rw [previous, hkeeps.previous]
  exact note_greatest hrecords ms (fun j => Key.ofIndex_lt_iff j i)
    ((T.table .milestone).greatest_previous? _)

/-- From zero on there are all. -/
theorem atOrAfter_least (i : UInt32) :
    ∃ answer, (ms.atOrAfter s i).1 = .ok answer ∧
      Least (fun m => Tells (T.table .milestone) m ∧ i ≤ m.index) answer := by
  unfold atOrAfter
  split
  · next hzero =>
    have hall : ∀ m : Milestone, i ≤ m.index := fun m => by
      rw [hzero]
      exact UInt32.zero_le
    simpa only [hall, and_true] using first_least hkeeps hrecords ms
  · next hzero =>
    simpa only [Key.indexPred_lt_iff hzero] using
      next_least hkeeps hrecords ms (Key.indexPred i)

/-- Up to the greatest number there are all. -/
theorem atOrBefore_greatest (i : UInt32) :
    ∃ answer, (ms.atOrBefore s i).1 = .ok answer ∧
      Greatest (fun m => Tells (T.table .milestone) m ∧ m.index ≤ i) answer := by
  unfold atOrBefore
  split
  · next hmax =>
    have hall : ∀ m : Milestone, m.index ≤ i := fun m => Key.le_of_indexSucc_eq hmax m.index
    simpa only [hall, and_true] using last_greatest hkeeps hrecords ms
  · next hmax =>
    simpa only [Key.lt_indexSucc_iff hmax] using
      previous_greatest hkeeps hrecords ms (Key.indexSucc i)

end searching

/-! ## What stands -/

/-- What stands under a number once something happened, when `before` stood
    there. -/
def Step.leaves (i : UInt32) (before : Option Milestone) : Step → Option Milestone
  | .create j hash => if j = i then some ⟨j, hash⟩ else before
  | .delete j => if j = i then none else before
  | .ask _ => before
  | .change _ => before

/-- What stands under a number after several steps: what was created there
    last, unless it was deleted since. -/
def standing (es : List Step) (i : UInt32) : Option Milestone := es.foldl (Step.leaves i) none

theorem standing_concat (es : List Step) (e : Step) (i : UInt32) :
    standing (es ++ [e]) i = e.leaves i (standing es i) :=
  List.foldl_concat _ _ _ _

/-- The records under the numbers tell what stands there, and nothing else. -/
theorem ofRecord_take {ms : Milestones} {s : Store} {T T' : Tables} (hkeeps : s.Keeps T) {e : Step}
    (he : e.Proper) (hkeeps' : (take (ms, s) e).2.Keeps T') {i : UInt32} {before : Option Milestone}
    (hbefore : ofRecord ((T.table .milestone).get? (Key.ofIndex i)) = .ok before) :
    ofRecord ((T'.table .milestone).get? (Key.ofIndex i)) = .ok (e.leaves i before) := by
  cases e with
  | create j hash =>
    obtain ⟨s', hcreate, hs'⟩ := create_of_keeps hkeeps ms ⟨j, hash⟩
    rw [take, hcreate] at hkeeps'
    rw [← hs'.unique hkeeps', Tables.table_put_self]
    by_cases hj : j = i
    · subst hj
      rw [OrderedMap.get?_insert_self, Step.leaves, if_pos rfl, ofRecord,
        Milestone.run_encode (m := ⟨j, hash⟩) he]
      rfl
    · have hkey : Key.ofIndex i ≠ Key.ofIndex j := fun heq => hj (Key.ofIndex_inj.mp heq).symm
      rw [OrderedMap.get?_insert_of_ne _ _ hkey, hbefore, Step.leaves, if_neg hj]
  | delete j =>
    obtain ⟨s', hdelete, hs'⟩ := delete_of_keeps hkeeps ms j
    rw [take, hdelete] at hkeeps'
    rw [← hs'.unique hkeeps', Tables.table_remove_self]
    by_cases hj : j = i
    · subst hj
      rw [OrderedMap.get?_erase_self, Step.leaves, if_pos rfl, ofRecord]
    · have hkey : Key.ofIndex i ≠ Key.ofIndex j := fun heq => hj (Key.ofIndex_inj.mp heq).symm
      rw [OrderedMap.get?_erase_of_ne _ hkey, hbefore, Step.leaves, if_neg hj]
  | ask q =>
    rw [← hkeeps.unique hkeeps']
    exact hbefore
  | change c =>
    have hedits : Change.allEdits [c] = c.edits := List.append_nil _
    have helsewhere : (T.changed [c]).table .milestone = T.table .milestone :=
      Edit.table_foldl_apply (by rw [hedits]; exact he) T
    have hs' : (take (ms, s) (.change c)).2.Keeps (T.changed [c]) := by
      rw [take, hkeeps.faultFree.change_eq]
      exact hkeeps.changeAll [c]
    rw [← hs'.unique hkeeps', helsewhere]
    exact hbefore

section standing
variable {s : Store} {T : Tables} (hkeeps : s.Keeps T) (hempty : T.table .milestone = .empty)
include hkeeps hempty

theorem keeps_run {es : List Step} (hproper : ∀ e ∈ es, e.Proper) :
    ∃ T', (run s es).2.Keeps T' ∧ Records (T'.table .milestone) ∧
      ∀ i, ofRecord ((T'.table .milestone).get? (Key.ofIndex i)) = .ok (standing es i) := by
  have hstart : Faithful (empty, s) :=
    ⟨T, hkeeps, by rw [hempty]; exact records_empty, mirrors_empty _⟩
  induction es using List.reverseRecOn with
  | nil => exact ⟨T, hkeeps, by rw [hempty]; exact records_empty, fun i => by rw [hempty]; rfl⟩
  | append_singleton es e ih =>
    obtain ⟨hes, he⟩ := List.forall_mem_append.mp hproper
    obtain ⟨T₁, hkeeps₁, -, htold⟩ := ih hes
    have hend : Faithful (run s (es ++ [e])) := hstart.foldl hproper
    obtain ⟨T₂, hkeeps₂, hrecords₂, -⟩ := hend
    refine ⟨T₂, hkeeps₂, hrecords₂, fun i => ?_⟩
    rw [run, List.foldl_concat] at hkeeps₂
    rw [standing_concat]
    exact ofRecord_take hkeeps₁ (List.forall_mem_singleton.mp he) hkeeps₂ (htold i)

/-- Over one fault-free provider that had no milestones, however milestones
    were created and deleted, with questions and changes of other records in
    between, every search finds the milestone that it names among those that
    stand, and finds nothing exactly if there is none: the one with the least
    and with the greatest number; the nearest ones above and below a number;
    and the nearest ones from a number on and up to it, whatever the number. -/
theorem finds_neighbors {es : List Step} (hproper : ∀ e ∈ es, e.Proper) :
    let ms := (run s es).1
    let s' := (run s es).2
    let Stands := fun m : Milestone => standing es m.index = some m
    (∃ answer, (ms.first s').1 = .ok answer ∧ Least Stands answer) ∧
    (∃ answer, (ms.last s').1 = .ok answer ∧ Greatest Stands answer) ∧
    ∀ i : UInt32,
      (∃ answer, (ms.next s' i).1 = .ok answer ∧
        Least (fun m => Stands m ∧ i < m.index) answer) ∧
      (∃ answer, (ms.previous s' i).1 = .ok answer ∧
        Greatest (fun m => Stands m ∧ m.index < i) answer) ∧
      (∃ answer, (ms.atOrAfter s' i).1 = .ok answer ∧
        Least (fun m => Stands m ∧ i ≤ m.index) answer) ∧
      ∃ answer, (ms.atOrBefore s' i).1 = .ok answer ∧
        Greatest (fun m => Stands m ∧ m.index ≤ i) answer := by
  intro ms s' Stands
  obtain ⟨T', hkeeps', hrecords, htold⟩ := keeps_run hkeeps hempty hproper
  have htells : Tells (T'.table .milestone) = Stands := by
    funext m
    rw [Tells, htold, Except.ok.injEq]
  rw [← htells]
  refine ⟨first_least hkeeps' hrecords ms, last_greatest hkeeps' hrecords ms, fun i => ?_⟩
  exact ⟨next_least hkeeps' hrecords ms i, previous_greatest hkeeps' hrecords ms i,
    atOrAfter_least hkeeps' hrecords ms i, atOrBefore_greatest hkeeps' hrecords ms i⟩

end standing

/-- Two milestones are created, one of them is deleted, and the other is
    created again with another hash. -/
def onlyNine : List Step :=
  [ .create 2 (Hash.ofTrits [1]),
    .create 9 (Hash.ofTrits [0, 1]),
    .delete 2,
    .create 9 (Hash.ofTrits [-1]) ]

theorem standing_onlyNine (i : UInt32) :
    standing onlyNine i = if 9 = i then some ⟨9, Hash.ofTrits [-1]⟩ else none := by
  simp only [standing, onlyNine, List.foldl_cons, List.foldl_nil, Step.leaves]
  split
  · rfl
  · split <;> rfl

/-- The one that stands is found from both ends, and not below itself. -/
theorem finds_neighbors_onlyNine :
    let s : Store := ⟨[Provider.fresh "memory"]⟩
    let ms := (run s onlyNine).1
    let s' := (run s onlyNine).2
    let nine : Milestone := ⟨9, Hash.ofTrits [-1]⟩
    s.Keeps .empty ∧ Tables.table .empty .milestone = .empty ∧ (∀ e ∈ onlyNine, e.Proper) ∧
      (ms.next s' 2).1 = .ok (some nine) ∧ (ms.previous s' 9).1 = .ok none ∧
      (ms.atOrAfter s' 0).1 = .ok (some nine) ∧
      (ms.atOrBefore s' 4294967295).1 = .ok (some nine) := by
  intro s ms s' nine
  have hkeeps : s.Keeps .empty := Store.keeps_fresh "memory"
  have hproper : ∀ e ∈ onlyNine, e.Proper := by
    simp only [onlyNine, List.forall_mem_cons, Step.Proper]
    refine ⟨⟨_, by decide, rfl⟩, ⟨_, by decide, rfl⟩, trivial, ⟨_, by decide, rfl⟩,
      fun _ h => absurd h List.not_mem_nil⟩
  have hstands : standing onlyNine nine.index = some nine := standing_onlyNine 9
  have honly : ∀ m : Milestone, standing onlyNine m.index = some m → m = nine := by
    intro m hm
    rw [standing_onlyNine] at hm
    split at hm
    · exact (Option.some.inj hm).symm
    · cases hm
  obtain ⟨-, -, hsearch⟩ := finds_neighbors hkeeps rfl hproper
  obtain ⟨⟨above, hnext, habove⟩, -, -, -⟩ := hsearch 2
  obtain ⟨-, ⟨below, hprevious, hbelow⟩, -, -⟩ := hsearch 9
  obtain ⟨-, -, ⟨least, hafter, hleast⟩, -⟩ := hsearch 0
  obtain ⟨-, -, -, ⟨greatest, hbefore, hgreatest⟩⟩ := hsearch 4294967295
  have hnone : below = none := hbelow.eq_none fun m hm => by
    rw [honly m hm.1] at hm
    exact absurd hm.2 (by decide)
  refine ⟨hkeeps, rfl, hproper, ?_, ?_, ?_, ?_⟩
  · rw [hnext, habove.eq_some ⟨hstands, by decide⟩ fun m hm => honly m hm.1]
  · rw [hprevious, hnone]
  · rw [hafter, hleast.eq_some ⟨hstands, by decide⟩ fun m hm => honly m hm.1]
  · rw [hbefore, hgreatest.eq_some ⟨hstands, by decide⟩ fun m hm => honly m hm.1]

end Milestones

end TernaryGossip
