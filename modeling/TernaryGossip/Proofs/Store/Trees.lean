import TernaryGossip.Proofs.Store.Changes
import TernaryGossip.Store.Database

/-! # The content of a database of trees

    The trees of an engine are ordered maps if each has a map as its view:
    an insertion, a removal and a batch act on the view, with the last
    insertion of a key winning in a batch, and every question about a tree
    is answered by the entries of its view.

    A change of a database then acts on the views of its trees as it acts on
    tables.  For a batch this rests on the grouping: every record stands in
    the batch of its partition, behind the earlier ones of that partition,
    and there is only one batch for each, so it does not matter in which
    order the batches are applied. -/

namespace TernaryGossip

variable {τ : Type}

/-! ## Trees that are ordered maps -/

/-- The trees of an engine are ordered maps from byte strings to byte
    strings; `view` tells the map of a tree. -/
structure TreeEngine.IsOrderedMap (E : TreeEngine τ) (view : τ → Table) : Prop where
  new : view E.new = .empty
  insert : ∀ t key value, view (E.insert t key value) = (view t).insert key value
  remove : ∀ t key, view (E.remove t key) = (view t).erase key
  /-- The last insertion of a key wins, and other keys keep their values. -/
  apply : ∀ t (b : Batch) key, (view (E.apply t b)).get? key =
    ((b.reverse.find? fun e => compare key e.1 == .eq).map (·.2)).or ((view t).get? key)
  get : ∀ t key, E.get t key = (view t).get? key
  contains : ∀ t key, E.contains t key = ((view t).get? key).isSome
  size : ∀ t, E.size t = (view t).entries.length
  first : ∀ t, E.first t = (view t).entries.head?
  last : ∀ t, E.last t = (view t).entries.getLast?
  above : ∀ t key, E.above t key = (view t).entries.find? fun e => compare key e.1 == .lt
  below : ∀ t key, E.below t key = (view t).entries.reverse.find? fun e => compare e.1 key == .lt
  entries : ∀ t, E.entries t = (view t).entries
  scan : ∀ t start, E.scan t start = (view t).entries.filter fun e => start.isPrefixOf e.1

/-- The map once the insertions of a batch are made, one after another. -/
def Batch.insertInto (m : Table) (b : Batch) : Table := b.foldl (fun m e => m.insert e.1 e.2) m

theorem Batch.insertInto_append (m : Table) (b c : Batch) :
    insertInto m (b ++ c) = insertInto (insertInto m b) c :=
  List.foldl_append

theorem TreeEngine.IsOrderedMap.view_apply {E : TreeEngine τ} {view : τ → Table}
    (hE : E.IsOrderedMap view) (t : τ) (b : Batch) :
    view (E.apply t b) = Batch.insertInto (view t) b := by
  apply OrderedMap.ext_get?
  intro key
  rw [hE.apply, Batch.insertInto, OrderedMap.get?_foldl_insert]

/-! ## Grouping the records of a batch -/

/-- The insertions of several records into one partition, in their order. -/
def Put.insertionsFor (part : Partition) (rs : List Put) : Batch :=
  (rs.filter fun r => r.partition = part).map fun r => (r.key, r.value)

theorem Tables.table_putAll (T : Tables) (rs : List Put) (part : Partition) :
    (T.putAll rs).table part = Batch.insertInto (T.table part) (Put.insertionsFor part rs) := by
  induction rs generalizing T with
  | nil => rfl
  | cons r rs ih =>
    rw [putAll_cons, ih]
    by_cases hr : r.partition = part
    · subst hr
      rw [table_put_self]
      simp [Put.insertionsFor, Batch.insertInto]
    · rw [table_put_of_ne T r.key r.value (Ne.symm hr)]
      simp [Put.insertionsFor, hr]

namespace Database

/-- All insertions for a partition in several groups, in their order. -/
def insertionsIn (part : Partition) (gs : List (Partition × Batch)) : Batch :=
  (gs.filter fun g => g.1 = part).flatMap (·.2)

theorem insertionsIn_cons (part : Partition) (g : Partition × Batch)
    (gs : List (Partition × Batch)) :
    insertionsIn part (g :: gs) = (if g.1 = part then g.2 else []) ++ insertionsIn part gs := by
  by_cases hg : g.1 = part <;> simp [insertionsIn, hg]

theorem insertionsIn_eq_nil {part : Partition} {gs : List (Partition × Batch)}
    (h : part ∉ gs.map Prod.fst) : insertionsIn part gs = [] := by
  have hnone : (gs.filter fun g => g.1 = part) = [] := by
    rw [List.filter_eq_nil_iff]
    intro g hg hpart
    exact h (List.mem_map.mpr ⟨g, hg, of_decide_eq_true hpart⟩)
  rw [insertionsIn, hnone, List.flatMap_nil]

theorem mem_map_addTo (r : Put) (gs : List (Partition × Batch)) (part : Partition) :
    part ∈ (addTo r gs).map Prod.fst ↔ part = r.partition ∨ part ∈ gs.map Prod.fst := by
  induction gs with
  | nil => simp [addTo]
  | cons g gs ih =>
    rw [addTo]
    split
    · next hg => simp [hg]
    · rw [List.map_cons, List.mem_cons, ih, List.map_cons, List.mem_cons]
      exact or_left_comm

theorem nodup_addTo (r : Put) {gs : List (Partition × Batch)} (h : (gs.map Prod.fst).Nodup) :
    ((addTo r gs).map Prod.fst).Nodup := by
  induction gs with
  | nil => simp [addTo]
  | cons g gs ih =>
    obtain ⟨hg, hgs⟩ := List.nodup_cons.mp h
    rw [addTo]
    split
    · exact h
    · next hne =>
      rw [List.map_cons, List.nodup_cons, mem_map_addTo]
      exact ⟨fun hmem => hmem.elim hne hg, ih hgs⟩

/-- A record goes behind the earlier ones of its partition. -/
theorem insertionsIn_addTo (part : Partition) (r : Put) {gs : List (Partition × Batch)}
    (h : (gs.map Prod.fst).Nodup) :
    insertionsIn part (addTo r gs) = insertionsIn part gs ++ Put.insertionsFor part [r] := by
  induction gs with
  | nil => by_cases hr : r.partition = part <;> simp [addTo, insertionsIn, Put.insertionsFor, hr]
  | cons g gs ih =>
    obtain ⟨hg, hgs⟩ := List.nodup_cons.mp h
    rw [addTo]
    split
    · next hsame =>
      rw [insertionsIn_cons, insertionsIn_cons]
      by_cases hpart : g.1 = part
      · -- the group is the only one of the partition
        subst hpart
        rw [insertionsIn_eq_nil hg]
        simp [Put.insertionsFor, hsame]
      · have hr : r.partition ≠ part := fun hr => hpart (hsame.trans hr)
        simp [Put.insertionsFor, hpart, hr]
    · rw [insertionsIn_cons, insertionsIn_cons, ih hgs, List.append_assoc]

theorem batches_concat (rs : List Put) (r : Put) :
    batches (rs ++ [r]) = addTo r (batches rs) :=
  List.foldl_concat _ _ _ _

theorem nodup_batches (rs : List Put) : ((batches rs).map Prod.fst).Nodup := by
  induction rs using List.reverseRecOn with
  | nil => exact .nil
  | append_singleton rs r ih =>
    rw [batches_concat]
    exact nodup_addTo r ih

theorem insertionsIn_batches (part : Partition) (rs : List Put) :
    insertionsIn part (batches rs) = Put.insertionsFor part rs := by
  induction rs using List.reverseRecOn with
  | nil => rfl
  | append_singleton rs r ih =>
    rw [batches_concat, insertionsIn_addTo part r (nodup_batches rs), ih]
    simp [Put.insertionsFor]

/-- With one group for each partition the order of the groups does not matter. -/
theorem insertionsIn_perm {part : Partition} {gs hs : List (Partition × Batch)}
    (hperm : gs.Perm hs) (h : (hs.map Prod.fst).Nodup) :
    insertionsIn part gs = insertionsIn part hs := by
  induction hperm with
  | nil => rfl
  | cons g _ ih => rw [insertionsIn_cons, insertionsIn_cons, ih (List.nodup_cons.mp h).2]
  | swap g g' gs =>
    have hne : g.1 ≠ g'.1 := by
      intro heq
      simp [heq] at h
    rw [insertionsIn_cons, insertionsIn_cons, insertionsIn_cons, insertionsIn_cons]
    by_cases hg : g.1 = part
    · have hg' : g'.1 ≠ part := fun hg' => hne (hg.trans hg'.symm)
      rw [if_neg hg', List.nil_append, List.nil_append]
    · rw [if_neg hg, List.nil_append, List.nil_append]
  | trans h₁ h₂ ih₁ ih₂ => rw [ih₁ ((h₂.map Prod.fst).nodup_iff.mpr h), ih₂ h]

/-! ## Changing a database -/

@[simp] theorem tree_setTree_self (d : Database τ) (part : Partition) (t : τ) :
    (d.setTree part t).tree part = t :=
  if_pos rfl

@[simp] theorem tree_setTree_of_ne (d : Database τ) {part q : Partition} (t : τ) (h : q ≠ part) :
    (d.setTree part t).tree q = d.tree q :=
  if_neg h

variable (E : TreeEngine τ)

/-- A change of the records of a database. -/
inductive Makes (d : Database τ) : Change → Database τ → Prop
  | save (part : Partition) (key value : Bytes) :
    Makes d (.save part key value) (d.save E part key value)
  | saveAll (rs : List Put) {gs : List (Partition × Batch)} (order : gs.Perm (batches rs)) :
    Makes d (.saveAll rs) (d.applyAll E gs)
  | delete (part : Partition) (key : Bytes) : Makes d (.delete part key) (d.delete E part key)

/-- Several changes of the records of a database. -/
inductive Run (d : Database τ) : List Change → Database τ → Prop
  | nil : Run d [] d
  | concat {cs : List Change} {c : Change} {d₁ d₂ : Database τ} :
    Run d cs d₁ → d₁.Makes E c d₂ → Run d (cs ++ [c]) d₂

/-- Every change can be made. -/
theorem exists_makes (d : Database τ) (c : Change) : ∃ d', d.Makes E c d' := by
  cases c with
  | save part key value => exact ⟨_, .save part key value⟩
  | saveAll rs => exact ⟨_, .saveAll rs (.refl _)⟩
  | delete part key => exact ⟨_, .delete part key⟩

theorem exists_run (d : Database τ) (cs : List Change) : ∃ d', d.Run E cs d' := by
  induction cs using List.reverseRecOn with
  | nil => exact ⟨d, .nil⟩
  | append_singleton cs c ih =>
    obtain ⟨d₁, hrun⟩ := ih
    obtain ⟨d₂, hmakes⟩ := d₁.exists_makes E c
    exact ⟨d₂, .concat hrun hmakes⟩

/-- The trees of a database show these tables. -/
def Shows (view : τ → Table) (d : Database τ) (T : Tables) : Prop :=
  ∀ part, view (d.tree part) = T.table part

section ordered
variable {E} {view : τ → Table} (hE : E.IsOrderedMap view)
include hE

theorem shows_fresh : (fresh E).Shows view .empty := fun _ => hE.new

/-- Each tree takes the insertions for its partition. -/
theorem view_applyAll (d : Database τ) (gs : List (Partition × Batch)) (part : Partition) :
    view ((d.applyAll E gs).tree part) =
      Batch.insertInto (view (d.tree part)) (insertionsIn part gs) := by
  induction gs generalizing d with
  | nil => rfl
  | cons g gs ih =>
    rw [insertionsIn_cons, Batch.insertInto_append]
    refine (ih (d.setTree g.1 (E.apply (d.tree g.1) g.2))).trans ?_
    by_cases hg : g.1 = part
    · subst hg
      rw [tree_setTree_self, hE.view_apply, if_pos rfl]
    · rw [tree_setTree_of_ne _ _ (Ne.symm hg), if_neg hg]
      rfl

/-- One change of a database is the same change of the tables that it shows. -/
theorem Shows.makes {d d' : Database τ} {T : Tables} {c : Change} (h : d.Shows view T)
    (hmakes : d.Makes E c d') : d'.Shows view (T.changed [c]) := by
  intro q
  cases hmakes with
  | save part key value =>
    show view ((d.setTree part _).tree q) = (T.put part key value).table q
    by_cases hq : q = part
    · subst hq
      rw [tree_setTree_self, hE.insert, h, Tables.table_put_self]
    · rw [tree_setTree_of_ne _ _ hq, h, Tables.table_put_of_ne _ _ _ hq]
  | saveAll rs order =>
    rw [Tables.changed_saveAll, Tables.table_putAll, view_applyAll hE,
      insertionsIn_perm order (nodup_batches rs), insertionsIn_batches, h]
  | delete part key =>
    show view ((d.setTree part _).tree q) = (T.remove part key).table q
    by_cases hq : q = part
    · subst hq
      rw [tree_setTree_self, hE.remove, h, Tables.table_remove_self]
    · rw [tree_setTree_of_ne _ _ hq, h, Tables.table_remove_of_ne _ _ hq]

/-- Several changes of a database are the same changes of the tables. -/
theorem Shows.run {d d' : Database τ} {T : Tables} {cs : List Change} (h : d.Shows view T)
    (hrun : d.Run E cs d') : d'.Shows view (T.changed cs) := by
  induction hrun with
  | nil => exact h
  | concat _ hmakes ih =>
    rw [Tables.changed_append]
    exact Shows.makes hE ih hmakes

end ordered

end Database

end TernaryGossip
