import Mathlib.Data.List.Induction
import Mathlib.Data.List.Perm.Basic
import TernaryGossip.Proofs.Gossip.Roster

/-! # Edits of the roster

    A peer is known by its address and its transport, its endpoint.  Three
    edits change the list of neighbors.  Adding looks whether the endpoint
    is listed already, and removing strikes off all entries that have it.
    Replacing looks at nothing: when the name of one entry is found to stand
    for the address of another entry, both have this address from then on.

    So an endpoint is listed at most once all along a run of edits if and
    only if no replacement puts a neighbor at the endpoint of another entry
    (`entries_le_one_iff`). -/

namespace TernaryGossip

theorem Neighbor.sameEndpoint_iff {n : Neighbor} {address : SocketAddress} {kind : TransportKind} :
    n.sameEndpoint address kind = true ↔ n.address = address ∧ n.kind = kind := by
  simp [sameEndpoint]

namespace Roster

/-- A change of the list of neighbors. -/
inductive Edit
  /-- A neighbor is added. -/
  | add (n : Neighbor)
  /-- The neighbors of an endpoint are struck off. -/
  | remove (address : SocketAddress) (kind : TransportKind)
  /-- A neighbor takes the place of another one. -/
  | replace (old new : Neighbor)

/-- A replacement gives a neighbor that the operator named by a host name
    another address, for the same name. -/
def Edit.KeepsName : Edit → Prop
  | .replace old new =>
      old.configured = true ∧ IpAddress.ofText? old.uri.host = none ∧ new.uri = old.uri ∧
        new.address.ip ≠ old.address.ip
  | _ => True

/-- The roster after an edit. -/
def edit (r : Roster) : Edit → Roster
  | .add n => (r.add n).2
  | .remove address kind => (r.remove address kind).2
  | .replace old new => (r.replace old new).2

/-- The roster after several edits. -/
def editAll (r : Roster) (es : List Edit) : Roster := es.foldl edit r

theorem editAll_append (r : Roster) (es es' : List Edit) :
    r.editAll (es ++ es') = (r.editAll es).editAll es' :=
  List.foldl_append

theorem editAll_concat (r : Roster) (es : List Edit) (e : Edit) :
    r.editAll (es ++ [e]) = (r.editAll es).edit e :=
  r.editAll_append es [e]

/-- An edit looks at nothing but the list. -/
theorem listed_edit_congr {r r' : Roster} (h : r.listed = r'.listed) (e : Edit) :
    (r.edit e).listed = (r'.edit e).listed := by
  cases e with
  | add n =>
    simp only [edit, add, h]
    split
    · exact h
    · rfl
  | remove address kind => simp only [edit, remove, h]
  | replace old new =>
    simp only [edit, replace, h]
    split
    · rfl
    · exact h

theorem listed_editAll_congr {r r' : Roster} (h : r.listed = r'.listed) (es : List Edit) :
    (r.editAll es).listed = (r'.editAll es).listed := by
  induction es generalizing r r' with
  | nil => exact h
  | cons e es ih => exact ih (listed_edit_congr h e)

@[simp] theorem tallies_edit (r : Roster) (e : Edit) : (r.edit e).tallies = r.tallies := by
  cases e with
  | add n =>
    simp only [edit, add]
    split <;> rfl
  | remove address kind => rfl
  | replace old new =>
    simp only [edit, replace]
    split <;> rfl

/-! ## Making and editing neighbors -/

/-- A roster comes from another one by making neighbors, which have counts
    from then on, and by edits. -/
structure Edited (r r' : Roster) : Prop where
  made : ∃ k, r'.tallies = r.tallies ++ List.replicate k .zero
  edits : ∃ es : List Edit, (∀ e ∈ es, e.KeepsName) ∧ r'.listed = (r.editAll es).listed
  valid : r.Valid → r'.Valid

namespace Edited

theorem refl (r : Roster) : r.Edited r :=
  ⟨⟨0, by simp⟩, ⟨[], fun _ he => absurd he List.not_mem_nil, rfl⟩, id⟩

theorem trans {r r' r'' : Roster} (h : r.Edited r') (h' : r'.Edited r'') : r.Edited r'' := by
  obtain ⟨k, hk⟩ := h.made
  obtain ⟨k', hk'⟩ := h'.made
  obtain ⟨es, hes, hlisted⟩ := h.edits
  obtain ⟨es', hes', hlisted'⟩ := h'.edits
  refine ⟨⟨k + k', ?_⟩, ⟨es ++ es', ?_, ?_⟩, h'.valid ∘ h.valid⟩
  · rw [hk', hk, List.append_assoc, List.replicate_append_replicate]
  · rw [List.forall_mem_append]
    exact ⟨hes, hes'⟩
  · rw [hlisted', editAll_append, listed_editAll_congr hlisted]

theorem grows {r r' : Roster} (h : r.Edited r') : r.Grows r' := by
  obtain ⟨k, hk⟩ := h.made
  refine ⟨⟨k, ?_⟩, h.valid⟩
  rw [freshCounts, freshCounts, hk, List.map_append, List.map_replicate]
  rfl

/-- Making and editing neighbors leaves all counts as they are. -/
theorem tally {r r' : Roster} (h : r.Edited r') (q : Neighbor) : r'.tally q = r.tally q := by
  obtain ⟨k, hk⟩ := h.made
  rw [Roster.tally, Roster.tally, hk, List.getD_eq_getElem?_getD, List.getD_eq_getElem?_getD]
  by_cases hq : q.id < r.tallies.length
  · rw [List.getElem?_append_left hq]
  · -- a neighbor without counts has the counts of a new one
    have hle := Nat.le_of_not_lt hq
    rw [List.getElem?_append_right hle, List.getElem?_eq_none hle, List.getElem?_replicate]
    split <;> rfl

end Edited

theorem make_edited (r : Roster) (uri : NeighborUri) (address : SocketAddress)
    (configured : Bool) : r.Edited (r.make uri address configured).2 where
  made := ⟨1, rfl⟩
  edits := ⟨[], fun _ he => absurd he List.not_mem_nil, rfl⟩
  valid := (r.make_grows uri address configured).1.valid

theorem edit_edited {r : Roster} {e : Edit} (he : e.KeepsName) (h : r.Grows (r.edit e)) :
    r.Edited (r.edit e) where
  made := by
    refine ⟨0, ?_⟩
    rw [List.replicate_zero, List.append_nil, tallies_edit]
  edits := ⟨[e], List.forall_mem_singleton.mpr he, rfl⟩
  valid := h.valid

/-- A new neighbor is listed unless its endpoint is. -/
theorem meet_edited (r : Roster) (uri : NeighborUri) (address : SocketAddress) (configured : Bool) :
    r.Edited ((r.make uri address configured).2.add (r.make uri address configured).1).2 :=
  (r.make_edited uri address configured).trans
    (edit_edited (e := .add _) trivial (add_grows (r.make_grows uri address configured).2))

theorem remove_edited (r : Roster) (address : SocketAddress) (kind : TransportKind) :
    r.Edited (r.remove address kind).2 :=
  edit_edited (e := .remove address kind) trivial (r.remove_grows address kind)

/-! ## Entries of an endpoint -/

/-- How many entries have this endpoint. -/
def entries (r : Roster) (address : SocketAddress) (kind : TransportKind) : Nat :=
  r.listed.countP (·.sameEndpoint address kind)

/-- No two entries have one endpoint. -/
def Distinct (r : Roster) : Prop :=
  r.listed.Pairwise fun a b => a.sameEndpoint b.address b.kind = false

variable {r : Roster} {address : SocketAddress} {kind : TransportKind}

theorem distinct_iff : r.Distinct ↔ ∀ address kind, r.entries address kind ≤ 1 := by
  unfold Distinct entries
  induction r.listed with
  | nil => simp
  | cons n ns ih =>
    rw [List.pairwise_cons, ih]
    constructor
    · rintro ⟨hother, hle⟩ address kind
      rw [List.countP_cons]
      split
      · next hsame =>
        -- no other entry has the endpoint of the first one
        obtain ⟨rfl, rfl⟩ := Neighbor.sameEndpoint_iff.mp hsame
        have hnone : ns.countP (·.sameEndpoint n.address n.kind) = 0 := by
          rw [List.countP_eq_zero]
          intro q hq hqn
          obtain ⟨haddress, hkind⟩ := Neighbor.sameEndpoint_iff.mp hqn
          have hne := hother q hq
          rw [haddress, hkind, hsame] at hne
          cases hne
        omega
      · exact hle address kind
    · intro hle
      refine ⟨fun q hq => ?_, fun address kind => ?_⟩
      · have hcount := hle q.address q.kind
        have hself : q.sameEndpoint q.address q.kind = true :=
          Neighbor.sameEndpoint_iff.mpr ⟨rfl, rfl⟩
        have hpos : 0 < ns.countP (·.sameEndpoint q.address q.kind) :=
          List.countP_pos_iff.mpr ⟨q, hq, hself⟩
        rw [List.countP_cons] at hcount
        cases hn : n.sameEndpoint q.address q.kind with
        | false => rfl
        | true =>
          rw [hn, if_pos rfl] at hcount
          omega
      · have hcount := hle address kind
        rw [List.countP_cons] at hcount
        omega

/-! ## One edit -/

/-- The edit puts a neighbor at this endpoint, and an entry beside the one
    that it replaces has the endpoint already. -/
def Clashes (r : Roster) (address : SocketAddress) (kind : TransportKind) : Edit → Prop
  | .replace old new =>
      new.sameEndpoint address kind = true ∧
        ∃ i, r.listed.findIdx? (·.id == old.id) = some i ∧
          ∃ q ∈ r.listed.eraseIdx i, q.sameEndpoint address kind = true
  | _ => False

/-- Adding makes no second entry of an endpoint. -/
theorem entries_add (r : Roster) (n : Neighbor) (address : SocketAddress) (kind : TransportKind) :
    (r.add n).2.entries address kind =
      if n.sameEndpoint address kind = true then max 1 (r.entries address kind)
      else r.entries address kind := by
  by_cases hsame : n.sameEndpoint address kind = true
  · obtain ⟨rfl, rfl⟩ := Neighbor.sameEndpoint_iff.mp hsame
    rw [if_pos hsame]
    unfold add
    split
    · next hlisted =>
      have hpos : 0 < r.entries n.address n.kind :=
        List.countP_pos_iff.mpr (List.any_eq_true.mp hlisted)
      simp only
      omega
    · next hlisted =>
      have hnone : r.entries n.address n.kind = 0 := by
        refine List.countP_eq_zero.mpr fun q hq hqn => hlisted ?_
        exact List.any_eq_true.mpr ⟨q, hq, hqn⟩
      rw [hnone]
      unfold entries at hnone
      simp only [entries, List.countP_append, hnone, List.countP_singleton, hsame, if_true]
      rfl
  · rw [if_neg hsame]
    unfold add
    split
    · rfl
    · simp only [entries, List.countP_append, List.countP_singleton, if_neg hsame, Nat.add_zero]

/-- Removing leaves no entry of the endpoint and touches no other one. -/
theorem entries_remove (r : Roster) (struck : SocketAddress) (struckKind : TransportKind)
    (address : SocketAddress) (kind : TransportKind) :
    (r.remove struck struckKind).2.entries address kind =
      if struck = address ∧ struckKind = kind then 0 else r.entries address kind := by
  unfold remove entries
  simp only
  rw [List.countP_filter]
  split
  · next hsame =>
    obtain ⟨rfl, rfl⟩ := hsame
    simp
  · next hother =>
    refine List.countP_congr fun n _ => ?_
    simp only [Bool.and_eq_true, Bool.not_eq_eq_eq_not, Bool.not_true, Bool.eq_false_iff, ne_eq,
      Neighbor.sameEndpoint_iff]
    constructor
    · exact fun h => h.1
    · rintro ⟨rfl, rfl⟩
      exact ⟨⟨rfl, rfl⟩, fun h => hother ⟨h.1.symm, h.2.symm⟩⟩

/-- After a replacement the new neighbor stands beside all other entries. -/
theorem entries_replace {old new : Neighbor} {i : Nat}
    (hi : r.listed.findIdx? (·.id == old.id) = some i) :
    (r.replace old new).2.entries address kind =
      (r.listed.eraseIdx i).countP (·.sameEndpoint address kind) +
        if new.sameEndpoint address kind = true then 1 else 0 := by
  have hlt : i < r.listed.length := (List.findIdx?_eq_some_iff_findIdx_eq.mp hi).1
  simp only [replace, hi, entries]
  rw [(List.set_perm_cons_eraseIdx hlt new).countP_eq, List.countP_cons]

/-- A clash makes a second entry of the endpoint. -/
theorem two_le_entries_of_clashes {e : Edit} (h : r.Clashes address kind e) :
    2 ≤ (r.edit e).entries address kind := by
  cases e with
  | replace old new =>
    obtain ⟨hnew, i, hi, hother⟩ := h
    have hpos := List.countP_pos_iff.mpr hother
    rw [edit, entries_replace hi, if_pos hnew]
    omega
  | _ => cases h

/-- Nothing but a clash makes a second entry of an endpoint, and a second
    entry does not outlast the removal of the endpoint. -/
theorem clashes_of_two_le_entries {e : Edit} (h : 2 ≤ (r.edit e).entries address kind) :
    (2 ≤ r.entries address kind ∧ e ≠ .remove address kind) ∨ r.Clashes address kind e := by
  cases e with
  | add n =>
    rw [edit, entries_add] at h
    refine .inl ⟨?_, Edit.noConfusion⟩
    split at h
    · omega
    · exact h
  | remove struck struckKind =>
    rw [edit, entries_remove] at h
    split at h
    · omega
    · next hother =>
      refine .inl ⟨h, fun heq => hother ?_⟩
      cases heq
      exact ⟨rfl, rfl⟩
  | replace old new =>
    cases hi : r.listed.findIdx? (·.id == old.id) with
    | none =>
      -- nobody is replaced
      simp only [edit, replace, hi] at h
      exact .inl ⟨h, Edit.noConfusion⟩
    | some i =>
      rw [edit, entries_replace hi] at h
      split at h
      · next hnew =>
        exact .inr ⟨hnew, i, hi, List.countP_pos_iff.mp (by omega)⟩
      · have hle := (List.eraseIdx_sublist r.listed i).countP_le
          (p := fun q => q.sameEndpoint address kind)
        exact .inl ⟨Nat.le_trans h hle, Edit.noConfusion⟩

/-! ## A run of edits -/

/-- The roster after several edits, when it was empty before. -/
def run (es : List Edit) : Roster := empty.editAll es

/-- A replacement put a neighbor at the endpoint of another entry, and the
    endpoint was not struck off since. -/
def ClashedAt (es : List Edit) (address : SocketAddress) (kind : TransportKind) : Prop :=
  ∃ before e after, es = before ++ e :: after ∧ (run before).Clashes address kind e ∧
    ∀ e' ∈ after, e' ≠ .remove address kind

theorem clashedAt_of_two_le {es : List Edit} (h : 2 ≤ (run es).entries address kind) :
    ClashedAt es address kind := by
  induction es using List.reverseRecOn with
  | nil =>
    -- nothing is listed at the start
    cases h
  | append_singleton es e ih =>
    rw [run, editAll_concat] at h
    rcases clashes_of_two_le_entries h with ⟨hbefore, he⟩ | hclash
    · -- the endpoint was listed twice before the last edit
      obtain ⟨before, e₀, after, rfl, hclash, hafter⟩ := ih hbefore
      refine ⟨before, e₀, after ++ [e], by simp, hclash, ?_⟩
      rw [List.forall_mem_append, List.forall_mem_singleton]
      exact ⟨hafter, he⟩
    · exact ⟨es, e, [], rfl, hclash, fun _ hnil => absurd hnil List.not_mem_nil⟩

/-- All rosters of a run list an endpoint at most once if and only if no edit
    of the run clashes there. -/
theorem entries_le_one_iff (es : List Edit) (address : SocketAddress) (kind : TransportKind) :
    (∀ before after, es = before ++ after → (run before).entries address kind ≤ 1) ↔
      ∀ before e after, es = before ++ e :: after → ¬ (run before).Clashes address kind e := by
  constructor
  · intro hle before e after heq hclash
    have htwo := two_le_entries_of_clashes hclash
    rw [run, ← editAll_concat] at htwo
    have hone := hle (before ++ [e]) after (by rw [heq, List.append_assoc]; rfl)
    rw [run] at hone
    omega
  · rintro hnone before after rfl
    by_contra htwo
    obtain ⟨b, e, a, rfl, hclash, -⟩ := clashedAt_of_two_le (Nat.lt_of_not_le htwo)
    exact hnone b e (a ++ after) (by simp) hclash

end Roster

end TernaryGossip
