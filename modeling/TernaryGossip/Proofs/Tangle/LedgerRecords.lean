import TernaryGossip.Proofs.OrderedMap
import TernaryGossip.Proofs.Store.Overlay
import TernaryGossip.Proofs.Store.Prefix
import TernaryGossip.Proofs.Store.Reading
import TernaryGossip.Tangle.Milestones

/-! # Records of the ledger

    A milestone is stored under its number, and its record tells the number
    and the hash.  A proper hash is read back from its text, so the record of
    a milestone with a proper hash is read as this milestone.

    The changes of balances that a milestone confirms are stored as a list,
    one item for each address, under the hash of the milestone.  Reading puts
    the items into a map one after another.  An address is read back from its
    text, so no two items fall together, and the map does not depend on the
    order in which it was filled: it is the map that was written, whatever
    its size and whatever the amounts.

    One record stands under each hash.  What is loaded is therefore what the
    last call about the hash left there: the changes that it stored, or
    nothing if it deleted them. -/

namespace TernaryGossip

/-! ## The record of a milestone -/

namespace Milestone

theorem reads_encode {m : Milestone} (hproper : m.hash.Proper) : reader.Reads m.encode m := by
  refine (Reader.reads_natural m.index.toNat_lt).bind ((Reader.reads_hash hproper).bind_nil ?_)
  rw [UInt32.ofNat_toNat]
  exact .pure m

/-- The record of a milestone with a proper hash is read as this milestone. -/
theorem run_encode {m : Milestone} (hproper : m.hash.Proper) : reader.run m.encode = .ok m :=
  (reads_encode hproper).run

end Milestone

namespace StateDiff

/-! ## The record of changes -/

/-- An amount is read back from its 64 bits, whatever its sign. -/
theorem toInt64_ofNat_toNat (v : Int64) : (UInt64.ofNat v.toUInt64.toNat).toInt64 = v := by
  rw [UInt64.ofNat_toNat, Int64.toInt64_toUInt64]

theorem reads_change {c : Hash × Int64} (hproper : c.1.Proper) :
    readChange.Reads (encodeChange c) c := by
  have hlt : c.2.toUInt64.toNat < 256 ^ 8 := c.2.toUInt64.toNat_lt
  refine (Reader.reads_hash hproper).bind ((Reader.reads_natural hlt).bind_nil ?_)
  rw [toInt64_ofNat_toNat]
  exact .pure c

/-- The milestone and all addresses are hashes that can be read back, and the
    number of addresses fits in the eight bytes of a length. -/
structure Proper (d : StateDiff) : Prop where
  hash : d.hash.Proper
  addresses : ∀ a ∈ d.changes.keys, a.Proper
  counted : d.changes.size < 256 ^ 8

theorem proper_empty {h : Hash} (hproper : h.Proper) : Proper ⟨h, .empty⟩ where
  hash := hproper
  addresses _ hmem := absurd hmem List.not_mem_nil
  counted := (by decide : 0 < 256 ^ 8)

theorem reads_encode {d : StateDiff} (hproper : d.Proper) : reader.Reads d.encode d := by
  have hitems : ∀ c ∈ d.changes.entries, readChange.Reads (encodeChange c) c := fun c hc =>
    reads_change (hproper.addresses c.1 (List.mem_map_of_mem hc))
  refine (Reader.reads_hash hproper.hash).bind
    ((Reader.reads_list hproper.counted hitems).bind_nil ?_)
  -- the items are the entries of a map, so putting them in one by one makes it again
  rw [OrderedMap.ofList_of_perm (List.Perm.refl _)]
  exact .pure d

/-! ## Calls -/

/-- A call that changes the records of the ledger. -/
inductive Call
  /-- Changes are stored under their milestone. -/
  | store (d : StateDiff)
  /-- The changes of a milestone are deleted. -/
  | delete (h : Hash)

namespace Call

/-- The milestone that a call is about. -/
def hash : Call → Hash
  | .store d => d.hash
  | .delete h => h

/-- What a call leaves under its milestone. -/
def leaves : Call → Option StateDiff
  | .store d => some d
  | .delete _ => none

/-- Whatever is stored can be read back. -/
def Proper : Call → Prop
  | .store d => d.Proper
  | .delete _ => True

/-- Makes a call; whether it was confirmed, which a deletion always is. -/
def make (s : Store) : Call → Except StorageError Bool × Store
  | .store d => d.store s
  | .delete h => ((StateDiff.delete s h).1.map fun _ => true, (StateDiff.delete s h).2)

/-- The edit of records that a call makes. -/
def edit (c : Call) : Edit := ⟨.stateDiff, Key.ofHash c.hash, c.leaves.map encode⟩

/-- The change of records that a call makes. -/
def change : Call → Change
  | .store d => .save .stateDiff (Key.ofHash d.hash) d.encode
  | .delete h => .delete .stateDiff (Key.ofHash h)

theorem make_eq (s : Store) (c : Call) : c.make s = s.change c.change := by
  cases c <;> rfl

theorem edits_change (c : Call) : c.change.edits = [c.edit] := by
  cases c <;> rfl

theorem Proper.of_leaves {c : Call} (hc : c.Proper) {d : StateDiff} (hd : c.leaves = some d) :
    d.Proper := by
  cases c with
  | store d' =>
    obtain rfl := Option.some.inj hd
    exact hc
  | delete h => cases hd

end Call

/-- The store after several calls. -/
def run (s : Store) (cs : List Call) : Store := cs.foldl (fun s c => (c.make s).2) s

theorem run_eq (s : Store) (cs : List Call) : run s cs = s.changeAll (cs.map Call.change) := by
  simp only [run, Call.make_eq, Store.changeAll, List.foldl_map]

/-- The last of several calls about a milestone. -/
def last? (cs : List Call) (h : Hash) : Option Call := cs.reverse.find? fun c => c.hash = h

/-- The changes of a milestone that were stored last and not deleted since. -/
def standing (cs : List Call) (h : Hash) : Option StateDiff := (last? cs h).bind Call.leaves

/-! ## What the calls leave -/

/-- The last edit of the key of a milestone is that of the last call about it. -/
theorem last?_edits (cs : List Call) (h : Hash) :
    Edit.last? (Change.allEdits (cs.map Call.change)) .stateDiff (Key.ofHash h) =
      (last? cs h).map Call.edit := by
  -- each call is one edit, so the edits in reverse are those of the calls in reverse
  have hedits : Change.allEdits (cs.map Call.change) = cs.map Call.edit := by
    rw [Change.allEdits, List.flatMap_map, List.map_eq_flatMap]
    simp only [Call.edits_change]
  simp only [Edit.last?, last?, hedits, ← List.map_reverse, List.find?_map, Function.comp_def,
    Call.edit, Key.ofHash_inj, true_and]

section calling
variable {s : Store} (hfree : s.FaultFree) (cs : List Call)
include hfree

theorem held_run (h : Hash) :
    (run s cs).held .stateDiff (Key.ofHash h) =
      match last? cs h with
      | some c => c.leaves.map encode
      | none => s.held .stateDiff (Key.ofHash h) := by
  rw [run_eq, hfree.held_changeAll, Edit.final, last?_edits]
  cases last? cs h <;> rfl

theorem faultFree_run : (run s cs).FaultFree := by
  rw [run_eq]
  exact (hfree.changeAll _).2

theorem isStored_run (h : Hash) :
    isStored (run s cs) h =
      .ok (((run s cs).held .stateDiff (Key.ofHash h)).isSome || s.providers.any (·.vague)) := by
  rw [isStored, run_eq, hfree.mayContain_changeAll]

end calling

/-- What stands after the calls is under every hash that one of them was
    about, or that had nothing before. -/
theorem held_run_of_known {s : Store} {T : Tables} (hkeeps : s.Keeps T) {cs : List Call} {h : Hash}
    (hknown : (T.table .stateDiff).contains (Key.ofHash h) = false ∨ (last? cs h).isSome) :
    (run s cs).held .stateDiff (Key.ofHash h) = (standing cs h).map encode := by
  rw [held_run hkeeps.faultFree, standing]
  cases hlast : last? cs h with
  | some c => rfl
  | none =>
    -- then there was nothing before, and no call has put anything there
    have hnone : (T.table .stateDiff).contains (Key.ofHash h) = false := by
      simpa [hlast] using hknown
    obtain ⟨p, hp, -, rfl⟩ := hkeeps
    rw [Store.held, hp, List.findSome?_singleton]
    exact Option.not_isSome_iff_eq_none.mp (Bool.eq_false_iff.mp hnone)

theorem proper_of_standing {cs : List Call} (hproper : ∀ c ∈ cs, c.Proper) {h : Hash}
    {d : StateDiff} (hd : standing cs h = some d) : d.Proper := by
  obtain ⟨c, hlast, hleaves⟩ := Option.bind_eq_some_iff.mp hd
  have hmem : c ∈ cs := List.mem_reverse.mp (List.mem_of_find?_eq_some hlast)
  exact (hproper c hmem).of_leaves hleaves

/-- A record that can be read back is loaded. -/
theorem load_of_held {s : Store} (hfree : s.FaultFree) {h : Hash} {found : Option StateDiff}
    (hheld : s.held .stateDiff (Key.ofHash h) = found.map encode)
    (hproper : ∀ d, found = some d → d.Proper) : load s h = .ok found := by
  rw [load, hfree.get_eq_held, hheld]
  cases found with
  | none => rfl
  | some d =>
    have hrun : reader.run d.encode = .ok d := (reads_encode (hproper d rfl)).run
    simp only [Option.map_some, bind, Except.bind, hrun]
    rfl

/-! ## Every record -/

/-- Over one fault-free provider, whatever else it holds, every call is
    confirmed.  After any calls the changes that were stored last under a
    hash, and not deleted since, are loaded from there just as they were; if
    there are none, nothing is loaded.  They are said to be there exactly if
    they are loaded, but for a vague provider, which says so of every hash.
    A hash that no call was about is left as it was.  The record of a
    milestone is read as the milestone. -/
theorem stored_records_read_back {s : Store} {T : Tables} (hkeeps : s.Keeps T) {cs : List Call}
    (hproper : ∀ c ∈ cs, c.Proper) :
    let s' := run s cs
    let vague := s.providers.any (·.vague)
    (∀ c : Call, (c.make s').1 = .ok true) ∧
    (∀ h, (T.table .stateDiff).contains (Key.ofHash h) = false ∨ (last? cs h).isSome →
      load s' h = .ok (standing cs h) ∧
      isStored s' h = .ok ((standing cs h).isSome || vague) ∧
      (vague = false → (isStored s' h = .ok true ↔ ∃ d, load s' h = .ok (some d)))) ∧
    (∀ h, last? cs h = none → load s' h = load s h ∧ isStored s' h = isStored s h) ∧
    ∀ m : Milestone, m.hash.Proper → Milestone.reader.run m.encode = .ok m := by
  intro s' vague
  have hfree := hkeeps.faultFree
  have hfree' : s'.FaultFree := faultFree_run hfree cs
  refine ⟨fun c => by rw [c.make_eq, hfree'.change], ?_, ?_, fun _ => Milestone.run_encode⟩
  · intro h hknown
    have hheld : s'.held .stateDiff (Key.ofHash h) = (standing cs h).map encode :=
      held_run_of_known hkeeps hknown
    have hload : load s' h = .ok (standing cs h) :=
      load_of_held hfree' hheld fun d hd => proper_of_standing hproper hd
    have hstored : isStored s' h = .ok ((standing cs h).isSome || vague) := by
      rw [isStored_run hfree, hheld, Option.isSome_map]
    refine ⟨hload, hstored, fun hexact => ?_⟩
    -- without vague providers both say whether anything stands there
    rw [hstored, hload, hexact, Bool.or_false, Except.ok.injEq, Option.isSome_iff_exists]
    simp only [Except.ok.injEq]
  · intro h hlast
    have hheld : s'.held .stateDiff (Key.ofHash h) = s.held .stateDiff (Key.ofHash h) := by
      rw [held_run hfree, hlast]
    constructor
    · rw [load, load, hfree'.get_eq_held, hfree.get_eq_held, hheld]
    · rw [isStored_run hfree, isStored, hfree.mayContain_eq_held, hheld]

/-- The least amount there is, and one that is positive. -/
def extremes : StateDiff :=
  ⟨Hash.ofTrits [1], .ofList [(Hash.ofTrits [1], Int64.minValue), (Hash.ofTrits [-1], 50)]⟩

theorem proper_extremes : extremes.Proper where
  hash := ⟨[1], by decide, rfl⟩
  addresses := by
    have hkeys : extremes.changes.keys = [Hash.ofTrits [1], Hash.ofTrits [-1]] := by decide +kernel
    rw [hkeys]
    simp only [List.forall_mem_cons]
    exact ⟨⟨[1], by decide, rfl⟩, ⟨[-1], by decide, rfl⟩, fun _ h => absurd h List.not_mem_nil⟩
  counted := by decide +kernel

/-- Changes are replaced, and others are deleted. -/
def replacing : List Call :=
  [ .store ⟨Hash.ofTrits [1], .empty⟩,
    .store ⟨Hash.ofTrits [0, 1], .empty⟩,
    .store extremes,
    .delete (Hash.ofTrits [0, 1]) ]

/-- The ones that replaced the others are found as they were stored, those
    that were deleted are not found, and other milestones are left alone. -/
theorem stored_records_read_back_replaced :
    let s : Store := ⟨[Provider.memory]⟩
    let s' := run s replacing
    let m : Milestone := ⟨7, Hash.ofTrits [1]⟩
    s.Keeps .empty ∧ (∀ c ∈ replacing, c.Proper) ∧
      load s' (Hash.ofTrits [1]) = .ok (some extremes) ∧
      isStored s' (Hash.ofTrits [1]) = .ok true ∧
      (isStored s' (Hash.ofTrits [1]) = .ok true ↔
        ∃ d, load s' (Hash.ofTrits [1]) = .ok (some d)) ∧
      load s' (Hash.ofTrits [0, 1]) = .ok none ∧
      isStored s' (Hash.ofTrits [0, 1]) = .ok false ∧
      last? replacing Hash.null = none ∧ load s' Hash.null = load s Hash.null ∧
      m.hash.Proper ∧ Milestone.reader.run m.encode = .ok m := by
  intro s s' m
  have hkeeps : s.Keeps .empty := Store.keeps_fresh "memory"
  have hproper : ∀ c ∈ replacing, c.Proper := by
    simp only [replacing, List.forall_mem_cons]
    exact ⟨proper_empty ⟨[1], by decide, rfl⟩, proper_empty ⟨[0, 1], by decide, rfl⟩,
      proper_extremes, trivial, fun _ h => absurd h List.not_mem_nil⟩
  have hm : m.hash.Proper := ⟨[1], by decide, rfl⟩
  have hnull : last? replacing Hash.null = none := rfl
  obtain ⟨-, hread, hother, hmilestones⟩ := stored_records_read_back hkeeps hproper
  obtain ⟨hload, hstored, hexact⟩ := hread (Hash.ofTrits [1]) (.inl rfl)
  obtain ⟨hload', hstored', -⟩ := hread (Hash.ofTrits [0, 1]) (.inl rfl)
  exact ⟨hkeeps, hproper, hload, hstored, hexact rfl, hload', hstored', hnull,
    (hother Hash.null hnull).1, hm, hmilestones m hm⟩

end StateDiff

end TernaryGossip
