import Mathlib.Data.List.Basic
import Mathlib.Data.List.Induction
import TernaryGossip.Proofs.Store.Content

/-! # Changes of the records

    Records change in three ways: one is written, several are written at a
    time, or one is removed.  A change is a list of edits of single records,
    and what several changes leave under a key is told by the last edit of
    that key: the value that it wrote, or nothing if it removed the record.
    A key that no edit touches keeps what it had.

    A provider that refuses a change keeps its records.  Over fault-free
    providers every change succeeds, and every provider of a store makes it. -/

namespace TernaryGossip

/-! ## Edits -/

/-- One record that is written, or removed if there is no value. -/
structure Edit where
  /-- The partition. -/
  partition : Partition
  /-- The key. -/
  key : Bytes
  /-- What is written. -/
  value : Option Bytes
  deriving DecidableEq

namespace Edit

/-- The tables once an edit is made. -/
def apply (T : Tables) (e : Edit) : Tables :=
  match e.value with
  | some value => T.put e.partition e.key value
  | none => T.remove e.partition e.key

theorem get?_apply (T : Tables) (e : Edit) (part : Partition) (key : Bytes) :
    ((apply T e).table part).get? key =
      if e.partition = part ∧ e.key = key then e.value else (T.table part).get? key := by
  obtain ⟨q, k, value⟩ := e
  by_cases hpart : q = part
  · -- the table that the edit is about
    subst hpart
    by_cases hkey : k = key
    · subst hkey
      cases value <;> simp [apply]
    · have hkey' : key ≠ k := fun h => hkey h.symm
      cases value <;> simp [apply, hkey, OrderedMap.get?_insert_of_ne, hkey']
  · have hpart' : part ≠ q := fun h => hpart h.symm
    cases value <;> simp [apply, hpart, Tables.table_put_of_ne, Tables.table_remove_of_ne, hpart']

/-- The last of several edits that touches a key. -/
def last? (es : List Edit) (part : Partition) (key : Bytes) : Option Edit :=
  es.reverse.find? fun e => e.partition = part ∧ e.key = key

/-- What is under a key after several edits, when `before` was under it. -/
def final (es : List Edit) (part : Partition) (key : Bytes) (before : Option Bytes) :
    Option Bytes :=
  match last? es part key with
  | some e => e.value
  | none => before

theorem final_concat (es : List Edit) (e : Edit) (part : Partition) (key : Bytes)
    (before : Option Bytes) :
    final (es ++ [e]) part key before =
      if e.partition = part ∧ e.key = key then e.value else final es part key before := by
  unfold final last?
  rw [List.reverse_concat, List.find?_cons]
  by_cases h : e.partition = part ∧ e.key = key
  · simp [h]
  · simp only [h, decide_false, if_false]

/-- The last edit of a key decides what the tables hold under it. -/
theorem get?_foldl_apply (T : Tables) (es : List Edit) (part : Partition) (key : Bytes) :
    ((es.foldl apply T).table part).get? key =
      final es part key ((T.table part).get? key) := by
  induction es using List.reverseRecOn with
  | nil => rfl
  | append_singleton es e ih =>
    rw [List.foldl_concat, get?_apply, final_concat, ih]

/-- What is written elsewhere leaves a table as it is. -/
theorem table_foldl_apply {part : Partition} {es : List Edit}
    (h : ∀ e ∈ es, e.partition ≠ part) (T : Tables) :
    (es.foldl apply T).table part = T.table part := by
  induction es generalizing T with
  | nil => rfl
  | cons e es ih =>
    have he : part ≠ e.partition := (h e List.mem_cons_self).symm
    rw [List.foldl_cons, ih fun x hx => h x (List.mem_cons_of_mem e hx), apply]
    cases e.value with
    | none => exact Tables.table_remove_of_ne T e.key he
    | some value => exact Tables.table_put_of_ne T e.key value he

/-- What is found either was there before and untouched, or it would be
    found even if nothing had been there. -/
theorem final_eq_some_iff (es : List Edit) (part : Partition) (key : Bytes)
    (before : Option Bytes) (value : Bytes) :
    final es part key before = some value ↔
      final es part key none = some value ∨ (last? es part key = none ∧ before = some value) := by
  unfold final
  cases last? es part key <;> simp

end Edit

/-! ## Changes -/

/-- A change of the records. -/
inductive Change
  /-- A record is written. -/
  | save (part : Partition) (key value : Bytes)
  /-- Several records are written at a time, in this order. -/
  | saveAll (rs : List Put)
  /-- A record is removed. -/
  | delete (part : Partition) (key : Bytes)

namespace Change

/-- The edits of a change, in their order. -/
def edits : Change → List Edit
  | .save part key value => [⟨part, key, some value⟩]
  | .saveAll rs => rs.map fun r => ⟨r.partition, r.key, some r.value⟩
  | .delete part key => [⟨part, key, none⟩]

/-- The edits of several changes. -/
def allEdits (cs : List Change) : List Edit := cs.flatMap edits

/-- The operation that a change asks for. -/
def operation : Change → Operation
  | .save .. => .save
  | .saveAll _ => .saveAll
  | .delete .. => .delete

end Change

/-- The tables once several changes are made. -/
def Tables.changed (T : Tables) (cs : List Change) : Tables :=
  (Change.allEdits cs).foldl Edit.apply T

namespace Tables

theorem changed_append (T : Tables) (cs ds : List Change) :
    T.changed (cs ++ ds) = (T.changed cs).changed ds := by
  simp [changed, Change.allEdits, List.flatMap_append, List.foldl_append]

theorem changed_saveAll (T : Tables) (rs : List Put) : T.changed [.saveAll rs] = T.putAll rs := by
  simp only [changed, Change.allEdits, List.flatMap_singleton, Change.edits, putAll,
    List.foldl_map]
  rfl

theorem get?_changed (T : Tables) (cs : List Change) (part : Partition) (key : Bytes) :
    ((T.changed cs).table part).get? key =
      Edit.final (Change.allEdits cs) part key ((T.table part).get? key) :=
  Edit.get?_foldl_apply T (Change.allEdits cs) part key

end Tables

/-! ## Changing a provider -/

namespace Provider

/-- Makes a change; whether it was confirmed, which a removal always is. -/
def change (p : Provider) : Change → Except StorageError Bool × Provider
  | .save part key value => p.save ⟨part, key, value⟩
  | .saveAll rs => p.saveAll rs
  | .delete part key => ((p.delete part key).1.map fun _ => true, (p.delete part key).2)

/-- A provider that has made several changes. -/
def changed (p : Provider) (cs : List Change) : Provider :=
  { p with tables := p.tables.changed cs, attempts := p.attempts + cs.length }

/-- The provider fails to make a change. -/
def refuses (p : Provider) (c : Change) : Bool := p.fails c.operation

/-- Whether a change that is made is confirmed. -/
def confirmation (p : Provider) : Change → Bool
  | .save .. => p.confirms
  | .saveAll _ => p.confirms
  | .delete .. => true

variable {p : Provider} {c : Change}

/-- A provider that refuses keeps its records. -/
theorem change_of_refuses (h : p.refuses c = true) : p.change c = (.error p.refusal, p.attempt) := by
  cases c with
  | save part key value => exact if_pos h
  | saveAll rs => exact if_pos h
  | delete part key =>
    have hdelete : p.delete part key = (.error p.refusal, p.attempt) := if_pos h
    rw [change, hdelete]
    rfl

theorem change_of_accepts (h : p.refuses c = false) :
    p.change c = (.ok (p.confirmation c), p.changed [c]) := by
  have hnot : ¬ p.fails c.operation = true := by
    rw [← refuses, h]
    exact Bool.false_ne_true
  cases c with
  | save part key value => exact if_neg hnot
  | saveAll rs =>
    have hsave : p.saveAll rs = (.ok p.confirms, { p.attempt with tables := p.tables.putAll rs }) :=
      if_neg hnot
    rw [change, hsave, ← Tables.changed_saveAll]
    rfl
  | delete part key =>
    have hdelete : p.delete part key =
        (.ok (), { p.attempt with tables := p.tables.remove part key }) := if_neg hnot
    rw [change, hdelete]
    rfl

namespace FaultFree

variable (h : p.FaultFree)
include h

theorem changed (cs : List Change) : (p.changed cs).FaultFree := ⟨h.never_fails, h.confirms⟩

theorem change (c : Change) : p.change c = (.ok true, p.changed [c]) := by
  have hconfirms : p.confirmation c = true := by
    cases c with
    | save part key value => exact h.confirms
    | saveAll rs => exact h.confirms
    | delete part key => rfl
  rw [change_of_accepts (h.fails c.operation), hconfirms]

end FaultFree

end Provider

/-! ## Changing a store -/

namespace Store

/-- Makes a change; whether it was confirmed, which a removal always is. -/
def change (s : Store) : Change → Except StorageError Bool × Store
  | .save part key value => s.save part key value
  | .saveAll rs => s.saveAll rs
  | .delete part key => ((s.delete part key).1.map fun _ => true, (s.delete part key).2)

/-- The store after several changes, whatever they answered. -/
def changeAll (s : Store) (cs : List Change) : Store := cs.foldl (fun s c => (s.change c).2) s

theorem changeAll_concat (s : Store) (cs : List Change) (c : Change) :
    s.changeAll (cs ++ [c]) = ((s.changeAll cs).change c).2 :=
  List.foldl_concat _ _ _ _

section everywhere
variable {α β : Type} {change : Provider → Except StorageError α × Provider}

theorem everywhere_map (f : α → β) (ps : List Provider) :
    everywhere (fun p => ((change p).1.map f, (change p).2)) ps =
      ((everywhere change ps).1.map (Option.map f), (everywhere change ps).2) := by
  induction ps with
  | nil => rfl
  | cons p ps ih =>
    rw [everywhere, everywhere]
    obtain ⟨answer, p'⟩ := change p
    cases answer with
    | error e => rfl
    | ok a =>
      simp only [ih]
      cases (everywhere change ps).1 <;> rfl

theorem changing_map (s : Store) (f : α → β) :
    s.changing (fun p => ((change p).1.map f, (change p).2)) =
      ((s.changing change).1.map f, (s.changing change).2) := by
  rw [changing, changing, everywhere_map]
  obtain ⟨answer, ps⟩ := everywhere change s.providers
  rcases answer with e | _ | a <;> rfl

end everywhere

/-- The providers of a store make a change one after another. -/
theorem change_eq_changing (s : Store) (c : Change) : s.change c = s.changing (·.change c) := by
  cases c with
  | save part key value => rfl
  | saveAll rs => rfl
  | delete part key => exact (s.changing_map fun _ => true).symm

namespace FaultFree

variable {s : Store} (h : s.FaultFree)
include h

theorem change (c : Change) :
    s.change c = (.ok true, ⟨s.providers.map fun p => p.changed [c]⟩) := by
  rw [change_eq_changing]
  exact changing_of_forall _ h.providers_ne_nil fun p hp => (h.faultFree p hp).change c

theorem changeAll (cs : List Change) :
    s.changeAll cs = ⟨s.providers.map fun p => p.changed cs⟩ ∧ (s.changeAll cs).FaultFree := by
  induction cs using List.reverseRecOn with
  | nil =>
    have hsame : (s.providers.map fun p => p.changed []) = s.providers := List.map_id _
    rw [hsame]
    exact ⟨rfl, h⟩
  | append_singleton cs c ih =>
    obtain ⟨heq, hfree⟩ := ih
    have hproviders : (s.changeAll (cs ++ [c])).providers =
        s.providers.map fun p => p.changed (cs ++ [c]) := by
      rw [changeAll_concat, hfree.change, heq, List.map_map]
      apply List.map_congr_left
      intro p _
      simp [Provider.changed, Tables.changed_append, Nat.add_assoc]
    refine ⟨by rw [← hproviders], ?_, ?_⟩
    · rw [hproviders]
      simpa using h.providers_ne_nil
    · rw [hproviders]
      intro q hq
      obtain ⟨p, hp, rfl⟩ := List.mem_map.mp hq
      exact (h.faultFree p hp).changed _

/-- One change is the same as a list of one. -/
theorem change_eq (c : Change) : s.change c = (.ok true, s.changeAll [c]) := by
  have hsame : s.changeAll [c] = (s.change c).2 := rfl
  rw [hsame, h.change]

end FaultFree

theorem Keeps.changeAll {s : Store} {T : Tables} (h : s.Keeps T) (cs : List Change) :
    (s.changeAll cs).Keeps (T.changed cs) := by
  obtain ⟨heq, -⟩ := h.faultFree.changeAll cs
  obtain ⟨p, hp, hf, rfl⟩ := h
  rw [heq, hp]
  exact ⟨p.changed cs, rfl, hf.changed cs, rfl⟩

end Store

end TernaryGossip
