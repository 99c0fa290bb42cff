import TernaryGossip.Api.Answer
import TernaryGossip.Proofs.Tangle.SeenMilestones

/-! # The milestone with the greatest number

    A node has three copies of the milestone with the greatest number: the
    latest known, the one among those that were seen, and the last record of
    its store.  When milestones are created, the latest known is replaced
    only by one with a greater number, while the other two are always
    written.

    So over one fault-free provider that had no milestones the latest known
    is the first one that was created under the greatest number, and the
    stored one is the last.  They are one and the same exactly if these two
    have the same hash. -/

namespace TernaryGossip

/-- The value of a member of an object. -/
def Json.member? (name : String) : Json → Option Json
  | .object members => (members.find? fun m => m.1 == some name).map (·.2)
  | _ => none

namespace Milestones

/-! ## Creating several milestones -/

/-- Creating each of several milestones, in their order. -/
def creates (cs : List Milestone) : List Step := cs.map fun m => .create m.index m.hash

/-- The first milestone of a number. -/
def firstUnder (cs : List Milestone) (i : UInt32) : Option Milestone :=
  cs.find? fun m => m.index = i

/-- The last milestone of a number. -/
def lastUnder (cs : List Milestone) (i : UInt32) : Option Milestone :=
  cs.reverse.find? fun m => m.index = i

theorem run_concat (s : Store) (es : List Step) (e : Step) :
    run s (es ++ [e]) = take (run s es) e := List.foldl_concat _ _ _ _

theorem proper_creates {cs : List Milestone} (h : ∀ m ∈ cs, m.hash.Proper) :
    ∀ e ∈ creates cs, e.Proper := by
  intro e he
  obtain ⟨m, hm, rfl⟩ := List.mem_map.mp he
  exact h m hm

theorem mem_of_firstUnder {cs : List Milestone} {i : UInt32} {m : Milestone}
    (h : firstUnder cs i = some m) : m ∈ cs ∧ m.index = i := by
  have hindex := List.find?_some h
  exact ⟨List.mem_of_find?_eq_some h, of_decide_eq_true hindex⟩

theorem mem_of_lastUnder {cs : List Milestone} {i : UInt32} {m : Milestone}
    (h : lastUnder cs i = some m) : m ∈ cs ∧ m.index = i := by
  have hindex := List.find?_some h
  exact ⟨List.mem_reverse.mp (List.mem_of_find?_eq_some h), of_decide_eq_true hindex⟩

/-- If some milestone has the number, there is a last one. -/
theorem exists_lastUnder {cs : List Milestone} {m : Milestone} (h : m ∈ cs) :
    ∃ last, lastUnder cs m.index = some last := by
  refine Option.isSome_iff_exists.mp (List.find?_isSome.mpr ⟨m, List.mem_reverse.mpr h, ?_⟩)
  exact decide_eq_true rfl

/-! ## The latest known -/

/-- A milestone is the first one that was created under the greatest number. -/
def FirstHighest (cs : List Milestone) (m : Milestone) : Prop :=
  firstUnder cs m.index = some m ∧ ∀ c ∈ cs, c.index ≤ m.index

theorem firstHighest_singleton (c : Milestone) : FirstHighest [c] c := by
  refine ⟨?_, ?_⟩
  · simp [firstUnder]
  · rintro c' hc'
    rw [List.mem_singleton.mp hc']
    exact UInt32.le_refl c.index

/-- Only a greater number takes the place of the greatest one. -/
theorem FirstHighest.concat {cs : List Milestone} {m : Milestone} (h : FirstHighest cs m)
    (c : Milestone) : FirstHighest (cs ++ [c]) (if m.index < c.index then c else m) := by
  obtain ⟨hfirst, hall⟩ := h
  have hconcat : ∀ i, firstUnder (cs ++ [c]) i =
      (firstUnder cs i).or (if c.index = i then some c else none) := by
    intro i
    rw [firstUnder, List.find?_append, List.find?_singleton]
    simp [firstUnder]
  split
  · next hlt =>
    have hbelow : ∀ c' ∈ cs, c'.index < c.index := fun c' hc' =>
      UInt32.lt_of_le_of_lt (hall c' hc') hlt
    have hnone : firstUnder cs c.index = none := by
      refine List.find?_eq_none.mpr fun c' hc' => ?_
      simpa using UInt32.ne_of_lt (hbelow c' hc')
    refine ⟨by rw [hconcat, hnone, if_pos rfl]; rfl, ?_⟩
    rw [List.forall_mem_append, List.forall_mem_singleton]
    exact ⟨fun c' hc' => UInt32.le_of_lt (hbelow c' hc'), UInt32.le_refl c.index⟩
  · next hge =>
    refine ⟨by rw [hconcat, hfirst]; rfl, ?_⟩
    rw [List.forall_mem_append, List.forall_mem_singleton]
    exact ⟨hall, UInt32.not_lt.mp hge⟩

/-- What is known once these milestones were created: nothing if there was
    none, else the first one of the greatest number. -/
def Known (cs : List Milestone) : Option Milestone → Prop
  | none => cs = []
  | some m => FirstHighest cs m

theorem Known.observe {cs : List Milestone} {ms : Milestones} (h : Known cs ms.latest)
    (c : Milestone) : Known (cs ++ [c]) (ms.observe c).latest := by
  unfold Milestones.observe
  cases hlatest : ms.latest with
  | none =>
    rw [hlatest] at h
    obtain rfl : cs = [] := h
    exact firstHighest_singleton c
  | some m =>
    rw [hlatest] at h
    have hconcat : FirstHighest (cs ++ [c]) (if m.index < c.index then c else m) := h.concat c
    simp only
    split
    · next hlt =>
      rw [if_pos hlt] at hconcat
      exact hconcat
    · next hge =>
      rw [if_neg hge] at hconcat
      rw [hlatest]
      exact hconcat

/-! ## What is stored -/

/-- The record of a milestone. -/
def record (m : Milestone) : Bytes × Bytes := (Key.ofIndex m.index, m.encode)

theorem get?_records (cs : List Milestone) (i : UInt32) :
    (OrderedMap.ofList (cs.map record)).get? (Key.ofIndex i) =
      (lastUnder cs i).map Milestone.encode := by
  have hsame : ((fun e : Bytes × Bytes => compare (Key.ofIndex i) e.1 == .eq) ∘ record) =
      fun m : Milestone => decide (m.index = i) := by
    funext m
    rw [Function.comp, record, Bool.eq_iff_iff, beq_iff_eq, decide_eq_true_iff,
      Std.LawfulEqCmp.compare_eq_iff_eq, Key.ofIndex_inj]
    exact eq_comm
  rw [OrderedMap.get?_ofList, ← List.map_reverse, List.find?_map, hsame, Option.map_map, lastUnder]
  rfl

/-- The last record is the last one of the greatest number. -/
theorem last?_records {cs : List Milestone} {i : UInt32} {m : Milestone}
    (hlast : lastUnder cs i = some m) (hall : ∀ c ∈ cs, c.index ≤ i) :
    (OrderedMap.ofList (cs.map record)).last? = some (Key.ofIndex i, m.encode) := by
  refine OrderedMap.last?_eq_of_greatest (by rw [get?_records, hlast]; rfl) ?_
  intro key b hkey hlt
  -- every key is that of one of the milestones
  rw [OrderedMap.get?_ofList, Option.map_eq_some_iff] at hkey
  obtain ⟨e, he, -⟩ := hkey
  obtain ⟨c, hc, rfl⟩ := List.mem_map.mp (List.mem_reverse.mp (List.mem_of_find?_eq_some he))
  have heq := List.find?_some he
  have hsame : key = Key.ofIndex c.index := Std.LawfulEqCmp.eq_of_compare (beq_iff_eq.mp heq)
  rw [hsame, Key.compare_ofIndex, Nat.compare_eq_lt] at hlt
  have hle := UInt32.le_iff_toNat_le.mp (hall c hc)
  omega

/-! ## What is known and what is stored -/

section created
variable {s : Store} {T : Tables}

theorem run_creates_concat {cs : List Milestone} (hkeeps : (run s (creates cs)).2.Keeps T)
    (c : Milestone) :
    ∃ (seen : OrderedMap UInt32 Milestone) (s' : Store),
      run s (creates (cs ++ [c])) =
        (({ (run s (creates cs)).1 with seen } : Milestones).observe c, s') ∧
      s'.Keeps (T.put .milestone (Key.ofIndex c.index) c.encode) := by
  obtain ⟨s', hcreate, hkeeps'⟩ := create_of_keeps hkeeps (run s (creates cs)).1 c
  have hcreates : creates (cs ++ [c]) = creates cs ++ [.create c.index c.hash] := List.map_append
  refine ⟨(run s (creates cs)).1.seen.insert c.index c, s', ?_, hkeeps'⟩
  rw [hcreates, run_concat, take, hcreate]

variable (hkeeps : s.Keeps T) (hempty : T.table .milestone = .empty)
include hkeeps hempty

/-- Creating milestones writes their records and no others, and what is known
    then is the first one of the greatest number. -/
theorem keeps_creates (cs : List Milestone) :
    Known cs (run s (creates cs)).1.latest ∧
      ∃ T', (run s (creates cs)).2.Keeps T' ∧
        T'.table .milestone = OrderedMap.ofList (cs.map record) := by
  induction cs using List.reverseRecOn with
  | nil => exact ⟨rfl, T, hkeeps, hempty⟩
  | append_singleton cs c ih =>
    obtain ⟨hknown, T', hkeeps', htable⟩ := ih
    obtain ⟨seen, s', hrun, hkeeps''⟩ := run_creates_concat hkeeps' c
    have hseen : Known cs ({ (run s (creates cs)).1 with seen } : Milestones).latest := hknown
    rw [hrun]
    refine ⟨hseen.observe c, _, hkeeps'', ?_⟩
    rw [Tables.table_put_self, htable, List.map_append, List.map_singleton,
      OrderedMap.ofList_concat]
    rfl

/-- The latest known is the first one of the greatest number, and what is
    found in the store is the last one. -/
theorem views_creates {cs : List Milestone} (hne : cs ≠ []) (hproper : ∀ m ∈ cs, m.hash.Proper) :
    let ms := (run s (creates cs)).1
    let s' := (run s (creates cs)).2
    ∃ known stored : Milestone,
      FirstHighest cs known ∧ lastUnder cs known.index = some stored ∧
      ms.latest = some known ∧ (ms.last s').1 = .ok (some stored) ∧
      (ms.get s' known.index).1 = .ok (some stored) := by
  intro ms s'
  obtain ⟨hknown, T', hkeeps', htable⟩ := keeps_creates hkeeps hempty cs
  have hstart : Faithful (Milestones.empty, s) :=
    ⟨T, hkeeps, by rw [hempty]; exact records_empty, mirrors_empty _⟩
  have hend : Faithful (ms, s') := hstart.foldl (proper_creates hproper)
  obtain ⟨T'', hkeeps'', hrecords, hmirrors⟩ := hend
  obtain rfl : T' = T'' := hkeeps'.unique hkeeps''
  have hknown' : Known cs ms.latest := hknown
  cases hlatest : ms.latest with
  | none =>
    rw [hlatest] at hknown'
    exact absurd hknown' hne
  | some known =>
    rw [hlatest] at hknown'
    obtain ⟨hfirst, hall⟩ := hknown'
    obtain ⟨stored, hstored⟩ := exists_lastUnder (mem_of_firstUnder hfirst).1
    have hread := Milestone.run_encode (hproper stored (mem_of_lastUnder hstored).1)
    refine ⟨known, stored, ⟨hfirst, hall⟩, hstored, rfl, ?_, ?_⟩
    · have hlast : s'.last .milestone = .ok (some (Key.ofIndex known.index, stored.encode)) := by
        rw [hkeeps''.last, htable, last?_records hstored hall]
      simp only [last, hlast, note, hread]
    · rw [(get_of_mirrors hkeeps'' hrecords hmirrors known.index).1, htable, get?_records, hstored,
        Option.map_some, ofRecord, hread]
      rfl

end created

end Milestones

/-! ## Views of a node -/

open Milestones

/-- Every view that a node has or gives of its highest milestone is this one. -/
structure Node.ShowsHighest (n : Node) (m : Milestone) : Prop where
  /-- It is the latest known. -/
  known : n.milestones.latest = some m
  /-- Its hash is sent. -/
  sent : n.milestones.latestHash = m.hash
  /-- It is the last record. -/
  last : (n.milestones.last n.store).1 = .ok (some m)
  /-- It is found under its number. -/
  found : (n.milestones.get n.store m.index).1 = .ok (some m)
  /-- It is reported in the state of the node. -/
  status : ∀ version time,
    (Api.statusJson n version time).member? "latest_milestone" = some (Api.milestoneJson m)
  /-- It is reported as the last one stored. -/
  report : ∀ version time,
    (Api.read n version time .latestMilestone).1 = .ok (Api.milestoneJson m)

section views
variable {n : Node} {known stored : Milestone}

theorem Milestones.latestHash_of_latest {ms : Milestones} (h : ms.latest = some known) :
    ms.latestHash = known.hash := by
  rw [latestHash, h]
  rfl

theorem Node.status_of_latest (h : n.milestones.latest = some known) (version time : String) :
    (Api.statusJson n version time).member? "latest_milestone" =
      some (Api.milestoneJson known) := by
  simp [Api.statusJson, Json.record, Json.member?, h]

theorem Node.report_of_last (h : (n.milestones.last n.store).1 = .ok (some stored))
    (version time : String) :
    (Api.read n version time .latestMilestone).1 = .ok (Api.milestoneJson stored) := by
  simp only [Api.read, h]
  rfl

/-- The views are the same if what is known is what is stored. -/
theorem Node.exists_showsHighest_iff (hlatest : n.milestones.latest = some known)
    (hlast : (n.milestones.last n.store).1 = .ok (some stored))
    (hget : (n.milestones.get n.store known.index).1 = .ok (some stored)) :
    (∃ m, n.ShowsHighest m) ↔ known = stored := by
  constructor
  · rintro ⟨m, h⟩
    have hm : known = m := Option.some.inj (hlatest.symm.trans h.known)
    have hm' : stored = m := Option.some.inj (Except.ok.inj (hlast.symm.trans h.last))
    exact hm.trans hm'.symm
  · rintro rfl
    exact ⟨known, hlatest, latestHash_of_latest hlatest, hlast, hget, status_of_latest hlatest,
      report_of_last hlast⟩

end views

theorem Milestone.eq_iff_hash_eq {a b : Milestone} (h : a.index = b.index) :
    a = b ↔ a.hash = b.hash := by
  obtain ⟨i, g⟩ := a
  obtain ⟨j, g'⟩ := b
  obtain rfl : i = j := h
  simp

/-- Milestones with proper hashes are told apart by their reports. -/
theorem Milestone.milestoneJson_eq_iff {a b : Milestone} (h : a.index = b.index)
    (ha : a.hash.Proper) (hb : b.hash.Proper) :
    Api.milestoneJson a = Api.milestoneJson b ↔ a.hash = b.hash := by
  rw [← ha.toTrytes_inj hb]
  simp [Api.milestoneJson, Json.record, Json.text, h]

/-- Over one fault-free provider that had no milestones, once milestones were
    created in any order and under any numbers, a node knows, sends and
    reports as its status the first one that was created under the greatest
    number, and finds in its store and reports from there the last one.  All
    views are the same if and only if these two have the same hash, and so
    are the two reports. -/
theorem Node.shows_highest_iff {s : Store} {T : Tables} (hkeeps : s.Keeps T)
    (hempty : T.table .milestone = .empty) {cs : List Milestone} (hne : cs ≠ [])
    (hproper : ∀ m ∈ cs, m.hash.Proper) {n : Node}
    (hn : (n.milestones, n.store) = Milestones.run s (creates cs)) :
    ∃ known stored : Milestone,
      (∀ m ∈ cs, m.index ≤ known.index) ∧
      firstUnder cs known.index = some known ∧ lastUnder cs known.index = some stored ∧
      n.milestones.latest = some known ∧ n.milestones.latestHash = known.hash ∧
      (n.milestones.last n.store).1 = .ok (some stored) ∧
      (n.milestones.get n.store known.index).1 = .ok (some stored) ∧
      (∀ version time,
        (Api.statusJson n version time).member? "latest_milestone" =
            some (Api.milestoneJson known) ∧
          (Api.read n version time .latestMilestone).1 = .ok (Api.milestoneJson stored)) ∧
      ((∃ m, n.ShowsHighest m) ↔ known.hash = stored.hash) ∧
      (Api.milestoneJson known = Api.milestoneJson stored ↔ known.hash = stored.hash) := by
  have hviews := views_creates hkeeps hempty hne hproper
  rw [← hn] at hviews
  obtain ⟨known, stored, ⟨hfirst, hall⟩, hstored, hlatest, hlast, hget⟩ := hviews
  obtain ⟨hmem, hindex⟩ := mem_of_lastUnder hstored
  have hknown := hproper known (mem_of_firstUnder hfirst).1
  refine ⟨known, stored, hall, hfirst, hstored, hlatest, latestHash_of_latest hlatest, hlast, hget,
    ?_, ?_, Milestone.milestoneJson_eq_iff hindex.symm hknown (hproper stored hmem)⟩
  · intro version time
    exact ⟨status_of_latest hlatest version time, report_of_last hlast version time⟩
  · rw [exists_showsHighest_iff hlatest hlast hget]
    exact Milestone.eq_iff_hash_eq hindex.symm

/-- A node with these milestones and this store. -/
def Node.keeping (now : Milestones × Store) : Node :=
  { fresh .standard 14 now.2 100 with milestones := now.1 }

/-- A greater number in between, created once, leaves all views the same. -/
theorem Node.shows_highest_iff_unrepeated :
    let s : Store := ⟨[Provider.fresh "memory"]⟩
    let cs : List Milestone :=
      [⟨5, Hash.ofTrits [1]⟩, ⟨7, Hash.ofTrits [0, 1]⟩, ⟨5, Hash.ofTrits [-1]⟩]
    let n := Node.keeping (Milestones.run s (creates cs))
    s.Keeps .empty ∧ Tables.table .empty .milestone = .empty ∧ cs ≠ [] ∧
      (∀ m ∈ cs, m.hash.Proper) ∧ ∃ m, n.ShowsHighest m := by
  intro s cs n
  have hkeeps : s.Keeps .empty := Store.keeps_fresh "memory"
  have hne : cs ≠ [] := List.cons_ne_nil _ _
  have hproper : ∀ m ∈ cs, m.hash.Proper := by
    simp only [cs, List.forall_mem_cons]
    exact ⟨⟨_, by decide, rfl⟩, ⟨_, by decide, rfl⟩, ⟨_, by decide, rfl⟩,
      fun _ h => absurd h List.not_mem_nil⟩
  obtain ⟨known, stored, hall, hfirst, hstored, -, -, -, -, -, hviews, -⟩ :=
    Node.shows_highest_iff (n := n) hkeeps rfl hne hproper rfl
  refine ⟨hkeeps, rfl, hne, hproper, hviews.mpr ?_⟩
  have hindex : known.index = 7 := by
    have hmem := (mem_of_firstUnder hfirst).1
    have hseven : 7 ≤ known.index := hall ⟨7, Hash.ofTrits [0, 1]⟩ (by simp [cs])
    simp only [cs, List.mem_cons, List.not_mem_nil, or_false] at hmem
    rcases hmem with rfl | rfl | rfl
    · exact absurd hseven (by decide)
    · rfl
    · exact absurd hseven (by decide)
  rw [hindex] at hfirst hstored
  cases hfirst
  cases hstored
  rfl

/-- When another hash is created under the greatest number, the node knows
    the first one and finds the second. -/
theorem Node.not_showsHighest_repeated :
    let s : Store := ⟨[Provider.fresh "memory"]⟩
    let first : Milestone := ⟨5, Hash.ofTrits [1]⟩
    let second : Milestone := ⟨5, Hash.ofTrits [-1]⟩
    let n := Node.keeping (Milestones.run s (creates [first, second]))
    n.milestones.latest = some first ∧ n.milestones.latestHash = first.hash ∧
      (n.milestones.last n.store).1 = .ok (some second) ∧
      (n.milestones.get n.store 5).1 = .ok (some second) ∧ first ≠ second ∧
      ¬ ∃ m, n.ShowsHighest m := by
  intro s first second n
  have hproper : ∀ m ∈ [first, second], m.hash.Proper := by
    rw [List.forall_mem_cons, List.forall_mem_singleton]
    exact ⟨⟨_, by decide, rfl⟩, ⟨_, by decide, rfl⟩⟩
  obtain ⟨known, stored, ⟨hfirst, -⟩, hstored, hlatest, hlast, hget⟩ :=
    views_creates (Store.keeps_fresh "memory") rfl (List.cons_ne_nil first [second]) hproper
  have hindex : known.index = 5 := by
    rcases List.mem_cons.mp (mem_of_firstUnder hfirst).1 with rfl | hmem
    · rfl
    · rw [List.mem_singleton.mp hmem]
  rw [hindex] at hfirst hstored
  cases hfirst
  cases hstored
  have hne : first ≠ second := by decide
  exact ⟨hlatest, latestHash_of_latest hlatest, hlast, hget, hne,
    fun h => hne ((exists_showsHighest_iff hlatest hlast hget).mp h)⟩

end TernaryGossip
