import Mathlib.Data.List.Forall2
import TernaryGossip.Proofs.Tangle.Storing

/-! # A transaction that could not be stored

    A store fails when one of its providers fails to write.  Whichever that
    is, each provider has then either taken all records of the transaction
    or none.  Nothing is taken back: if some provider has the records, the
    transaction is stored from then on, though storing it has failed.

    What is stored is told by the tables of the providers.  So it is the
    same before and after a failure if no provider has taken the records,
    and it is still the same when the providers work again. -/

namespace TernaryGossip

/-! ## All or none -/

/-- A provider fails as before, and it has taken all of several records or
    none. -/
structure Provider.AllOrNone (rs : List Put) (p p' : Provider) : Prop where
  faults : p'.faults = p.faults
  tables : p'.tables = p.tables ∨ p'.tables = p.tables.putAll rs

namespace Provider.AllOrNone

theorem refl (rs : List Put) (p : Provider) : AllOrNone rs p p := ⟨rfl, .inl rfl⟩

theorem saveAll (rs : List Put) (p : Provider) : AllOrNone rs p (p.saveAll rs).2 := by
  unfold Provider.saveAll
  split
  · exact ⟨rfl, .inl rfl⟩
  · exact ⟨rfl, .inr rfl⟩

end Provider.AllOrNone

namespace Store

/-- What each provider has. -/
def tables (s : Store) : List Tables := s.providers.map (·.tables)

/-- The store works without fault, on what the providers of another have. -/
structure Mends (u s : Store) : Prop where
  faultFree : u.FaultFree
  tables : u.tables = s.tables

theorem stored_iff_tables (s : Store) (h : Hash) : s.Stored h ↔ ∃ T ∈ s.tables, T.Stored h := by
  constructor
  · rintro ⟨p, hp, hhas⟩
    exact ⟨p.tables, List.mem_map_of_mem hp, hhas⟩
  · rintro ⟨T, hT, hstored⟩
    obtain ⟨p, hp, rfl⟩ := List.mem_map.mp hT
    exact ⟨p, hp, hstored⟩

theorem stored_congr {s s' : Store} (h : s'.tables = s.tables) (g : Hash) :
    s'.Stored g ↔ s.Stored g := by
  rw [stored_iff_tables, stored_iff_tables, h]

/-- A change that leaves each provider in some relation to what it was does
    so with every provider, and those that it does not reach are the same. -/
theorem forall₂_everywhere {α : Type} {change : Provider → Except StorageError α × Provider}
    {R : Provider → Provider → Prop} (hrefl : ∀ p, R p p) (hchange : ∀ p, R p (change p).2)
    (ps : List Provider) : List.Forall₂ R ps (everywhere change ps).2 := by
  induction ps with
  | nil => exact .nil
  | cons p ps ih =>
    have hp := hchange p
    unfold everywhere
    split
    · next hfails =>
      rw [hfails] at hp
      exact .cons hp (List.forall₂_same.mpr fun q _ => hrefl q)
    · next hdone =>
      rw [hdone] at hp
      exact .cons hp ih

theorem allOrNone_saveAll (s : Store) (rs : List Put) :
    List.Forall₂ (Provider.AllOrNone rs) s.providers (s.saveAll rs).2.providers := by
  rw [saveAll, providers_changing]
  exact forall₂_everywhere (Provider.AllOrNone.refl rs) (Provider.AllOrNone.saveAll rs) _

/-- A provider that fails alone has taken nothing. -/
theorem tables_of_saveAll_error {s s' : Store} {p : Provider} {rs : List Put}
    {cause : StorageError} (hone : s.providers = [p]) (h : s.saveAll rs = (.error cause, s')) :
    s'.tables = s.tables := by
  unfold saveAll changing at h
  rw [hone] at h
  unfold everywhere Provider.saveAll at h
  by_cases hfails : p.fails .saveAll = true
  · simp only [hfails, if_true] at h
    cases h
    rw [tables, tables, hone]
    rfl
  · simp [hfails, everywhere, Except.map] at h

namespace Answering

variable {s : Store} (h : s.Answering)
include h

theorem isStored_eq_true_iff (g : Hash) :
    Transaction.isStored s g = .ok true ↔ s.Stored g := by
  rw [h.isStored, asking]
  by_cases hnone : s.providers.isEmpty = true
  · -- without providers every operation fails, and nothing is stored
    have hnot : ¬ s.Stored g := by
      rintro ⟨p, hp, _⟩
      rw [List.isEmpty_iff.mp hnone] at hp
      exact absurd hp List.not_mem_nil
    simp [hnone, hnot]
  · simp [hnone]

/-- What is stored is told by what the providers have. -/
theorem isStored_congr {s' : Store} (h' : s'.Answering) (htables : s'.tables = s.tables)
    (g : Hash) : Transaction.isStored s' g = Transaction.isStored s g := by
  have hlength : s'.providers.length = s.providers.length := by
    simpa [tables] using congrArg List.length htables
  have hempty : s'.providers.isEmpty = s.providers.isEmpty := by
    rw [Bool.eq_iff_iff, List.isEmpty_iff_length_eq_zero, List.isEmpty_iff_length_eq_zero, hlength]
  rw [h.isStored, h'.isStored, asking, asking, hempty]
  simp only [stored_congr htables]

/-- Providers that have taken all of some records or none still answer. -/
theorem of_allOrNone {s' : Store} {rs : List Put}
    (hall : List.Forall₂ (Provider.AllOrNone rs) s.providers s'.providers) : s'.Answering := by
  unfold Answering at h ⊢
  generalize s.providers = ps at h hall
  generalize s'.providers = ps' at hall
  induction hall with
  | nil => exact fun _ hp => absurd hp List.not_mem_nil
  | cons hp _ ih =>
    obtain ⟨hfirst, hrest⟩ := List.forall_mem_cons.mp h
    refine List.forall_mem_cons.mpr ⟨?_, ih hrest⟩
    rw [hp.faults]
    exact hfirst

/-- When storing fails, the transaction was not stored, and writing it failed. -/
theorem saveAll_of_store_error {s' : Store} {t : Transaction} {cause : StorageError}
    (hstore : t.store s = (.error cause, s')) :
    ¬ s.Stored t.hash ∧ s.saveAll t.puts = (.error cause, s') := by
  unfold Transaction.store at hstore
  rw [h.isStored] at hstore
  by_cases hnone : s.providers = []
  · -- without providers every operation fails
    obtain ⟨ps⟩ := s
    obtain rfl : ps = [] := hnone
    refine ⟨?_, hstore⟩
    rintro ⟨p, hp, _⟩
    exact absurd hp List.not_mem_nil
  · have hask : s.asking (.ok (decide (s.Stored t.hash))) =
        .ok (decide (s.Stored t.hash)) := by simp [asking, hnone]
    rw [hask] at hstore
    by_cases hs : s.Stored t.hash
    · simp [hs] at hstore
    · simp only [hs, decide_false] at hstore
      exact ⟨hs, hstore⟩

end Answering

/-- If no provider has taken the records of a transaction, nothing changed;
    otherwise the transaction is stored. -/
theorem tables_eq_or_stored {s s' : Store} {t : Transaction}
    (hall : List.Forall₂ (Provider.AllOrNone t.puts) s.providers s'.providers) :
    s'.tables = s.tables ∨ s'.Stored t.hash := by
  rw [stored_iff_tables]
  unfold tables
  generalize s.providers = ps at hall
  generalize s'.providers = ps' at hall
  induction hall with
  | nil => exact .inl rfl
  | @cons p p' ps ps' hp _ ih =>
    rcases hp.tables with hnone | htaken
    · rcases ih with hsame | ⟨T, hT, hstored⟩
      · exact .inl (by rw [List.map_cons, List.map_cons, hnone, hsame])
      · exact .inr ⟨T, List.mem_cons_of_mem _ hT, hstored⟩
    · refine .inr ⟨p'.tables, List.mem_cons_self, ?_⟩
      rw [htaken]
      exact (t.stored_puts p.tables t.hash).mpr (.inl rfl)

end Store

end TernaryGossip
