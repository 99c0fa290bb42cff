import TernaryGossip.Proofs.Store.Changes

/-! # How far a write gets

    A store that writes goes through its providers in order.  The first one
    that refuses ends the write: those in front of it have made the change,
    and those behind it are not asked.  So a write reaches every provider
    that would make it only if none of them stands behind one that refuses.

    A provider that is not asked keeps its records, which shows unless the
    change would have left them as they are. -/

namespace TernaryGossip

/-! ## All providers in order -/

namespace Store

section everywhere
variable {α : Type} {change : Provider → Except StorageError α × Provider}

/-- Once the providers in front have made a change, those behind are asked. -/
theorem everywhere_append {answer : Provider → α} {after : Provider → Provider}
    {front : List Provider} (h : ∀ p ∈ front, change p = (.ok (answer p), after p))
    (back : List Provider) :
    everywhere change (front ++ back) =
      ((everywhere change back).1.map ((front.head?.map answer).or ·),
        front.map after ++ (everywhere change back).2) := by
  induction front with
  | nil =>
    show everywhere change back = _
    cases hback : everywhere change back with
    | mk answers ps => cases answers <;> rfl
  | cons p front ih =>
    obtain ⟨hp, hfront⟩ := List.forall_mem_cons.mp h
    rw [List.cons_append, everywhere, hp, ih hfront]
    cases (everywhere change back).1 <;> rfl

/-- The first provider that fails ends a change, and those behind it stay. -/
theorem everywhere_of_error {p p' : Provider} {e : StorageError} (h : change p = (.error e, p'))
    (back : List Provider) : everywhere change (p :: back) = (.error e, p' :: back) := by
  rw [everywhere, h]

end everywhere

variable {s : Store} {c : Change}

/-- The first provider that refuses ends a write with its error. -/
theorem change_of_refusing {front back : List Provider} {p : Provider}
    (hproviders : s.providers = front ++ p :: back) (hfront : ∀ q ∈ front, q.refuses c = false)
    (hp : p.refuses c = true) :
    s.change c = (.error p.refusal, ⟨front.map (·.changed [c]) ++ p.attempt :: back⟩) := by
  have heverywhere := everywhere_append
    (fun q hq => Provider.change_of_accepts (hfront q hq)) (p :: back)
  rw [everywhere_of_error (Provider.change_of_refuses hp)] at heverywhere
  rw [change_eq_changing, changing, hproviders, heverywhere]
  rfl

/-- If none refuses, all make the change. -/
theorem everywhere_of_accepting {ps : List Provider} (hall : ∀ q ∈ ps, q.refuses c = false) :
    everywhere (·.change c) ps =
      (.ok (ps.head?.map (·.confirmation c)), ps.map (·.changed [c])) :=
  everywhere_of_forall fun q hq => Provider.change_of_accepts (hall q hq)

/-- Then the first one answers. -/
theorem change_of_accepting {p : Provider} {ps : List Provider} (hproviders : s.providers = p :: ps)
    (hall : ∀ q ∈ s.providers, q.refuses c = false) :
    s.change c = (.ok (p.confirmation c), ⟨s.providers.map (·.changed [c])⟩) := by
  rw [change_eq_changing, changing, everywhere_of_accepting hall, hproviders]
  rfl

/-! ## Who is reached -/

/-- Each provider that does not refuse a change has made it, whatever the
    others do. -/
def Reaches (s : Store) (c : Change) : Prop :=
  List.Forall₂ (fun p p' => p.refuses c = false → p'.tables = p.tables.changed [c]) s.providers
    (s.change c).2.providers

/-- Either no provider refuses, or there is a first one that does. -/
theorem accepting_or_refusing (c : Change) (ps : List Provider) :
    (∀ q ∈ ps, q.refuses c = false) ∨
      ∃ front p back, ps = front ++ p :: back ∧ (∀ q ∈ front, q.refuses c = false) ∧
        p.refuses c = true := by
  induction ps with
  | nil => exact .inl fun q hq => absurd hq List.not_mem_nil
  | cons r ps ih =>
    cases hr : r.refuses c with
    | true => exact .inr ⟨[], r, ps, rfl, fun q hq => absurd hq List.not_mem_nil, hr⟩
    | false =>
      rcases ih with hall | ⟨front, p, back, rfl, hfront, hp⟩
      · exact .inl (List.forall_mem_cons.mpr ⟨hr, hall⟩)
      · exact .inr ⟨r :: front, p, back, rfl, List.forall_mem_cons.mpr ⟨hr, hfront⟩, hp⟩

theorem reaches_of_accepting (hall : ∀ q ∈ s.providers, q.refuses c = false) : s.Reaches c := by
  rw [Reaches, change_eq_changing, providers_changing, everywhere_of_accepting hall,
    List.forall₂_map_right_iff]
  exact List.forall₂_same.mpr fun _ _ _ => rfl

/-- The providers behind the first one that refuses are not changed, so each
    of them refuses too, or the change would leave its records. -/
theorem reaches_of_refusing {front back : List Provider} {p : Provider}
    (hproviders : s.providers = front ++ p :: back) (hfront : ∀ q ∈ front, q.refuses c = false)
    (hp : p.refuses c = true) :
    s.Reaches c ↔ ∀ q ∈ back, q.refuses c = true ∨ q.tables.changed [c] = q.tables := by
  have hmade : List.Forall₂ (fun q q' : Provider => q.refuses c = false →
      q'.tables = q.tables.changed [c]) front (front.map (·.changed [c])) :=
    List.forall₂_map_right_iff.mpr (List.forall₂_same.mpr fun _ _ _ => rfl)
  have hback : (∀ q ∈ back, q.refuses c = false → q.tables = q.tables.changed [c]) ↔
      ∀ q ∈ back, q.refuses c = true ∨ q.tables.changed [c] = q.tables := by
    refine forall₂_congr fun q _ => ?_
    cases q.refuses c <;> simp [eq_comm]
  rw [Reaches, change_of_refusing hproviders hfront hp, hproviders, ← hback]
  constructor
  · intro hreaches
    -- behind those in front stand the same providers before and after
    have hrest := List.forall₂_drop front.length hreaches
    rw [List.drop_left, List.drop_left' (List.length_map _)] at hrest
    exact List.forall₂_same.mp (List.forall₂_cons.mp hrest).2
  · intro hrest
    refine List.rel_append hmade (.cons ?_ (List.forall₂_same.mpr hrest))
    -- the one that refuses is not asked to have made the change
    intro hnot
    rw [hp] at hnot
    cases hnot

/-- A write ends at the first provider that refuses, with its error: those in
    front have made it, those behind keep what they have.  If none refuses,
    all make it, and the answer is that of the first.  So a write reaches
    every provider that does not refuse it if and only if each provider
    behind one that refuses also refuses it, or would not be changed. -/
theorem reaches_iff_none_behind_refusing (s : Store) (c : Change) :
    (∀ front p back, s.providers = front ++ p :: back → (∀ q ∈ front, q.refuses c = false) →
      p.refuses c = true →
      s.change c = (.error p.refusal, ⟨front.map (·.changed [c]) ++ p.attempt :: back⟩)) ∧
    (∀ p ps, s.providers = p :: ps → (∀ q ∈ s.providers, q.refuses c = false) →
      s.change c = (.ok (p.confirmation c), ⟨s.providers.map (·.changed [c])⟩)) ∧
    (s.Reaches c ↔ s.providers.Pairwise fun p q => p.refuses c = true →
      q.refuses c = true ∨ q.tables.changed [c] = q.tables) := by
  refine ⟨fun front p back => change_of_refusing, fun p ps => change_of_accepting, ?_⟩
  have hvacuous : ∀ {p : Provider} {P : Prop}, p.refuses c = false → p.refuses c = true → P := by
    intro p P hno hyes
    rw [hno] at hyes
    cases hyes
  rcases accepting_or_refusing c s.providers with hall | ⟨front, p, back, hproviders, hfront, hp⟩
  · refine iff_of_true (reaches_of_accepting hall) ?_
    exact List.pairwise_of_forall_mem_list fun q hq _ _ => hvacuous (hall q hq)
  · rw [reaches_of_refusing hproviders hfront hp, hproviders, List.pairwise_append,
      List.pairwise_cons]
    constructor
    · intro hback
      refine ⟨List.pairwise_of_forall_mem_list fun q hq _ _ => hvacuous (hfront q hq),
        ⟨fun q hq _ => hback q hq, List.pairwise_of_forall_mem_list fun _ _ q hq _ => hback q hq⟩,
        fun q hq _ _ => hvacuous (hfront q hq)⟩
    · rintro ⟨-, ⟨hfirst, -⟩, -⟩ q hq
      exact hfirst q hq hp

/-- A provider that refuses every change. -/
def refusing : Provider :=
  { Provider.memory with
    faults := fun _ op => op == .save || op == .saveAll || op == .delete }

/-- A provider with one record. -/
def holding : Provider :=
  { Provider.database with tables := Tables.put .empty .milestone [7] [70] }

/-- Behind a provider that refuses, a write is not made that would show. -/
theorem not_reaches_holding {c : Change} (hrefused : refusing.refuses c = true)
    (haccepted : holding.refuses c = false) (key : Bytes)
    (hshows : ((holding.tables.changed [c]).table .milestone).get? key ≠
      (holding.tables.table .milestone).get? key) : ¬ Reaches ⟨[refusing, holding]⟩ c := by
  intro h
  have hproviders : (⟨[refusing, holding]⟩ : Store).providers = [] ++ refusing :: [holding] := rfl
  have hreaches := reaches_of_refusing hproviders (fun q hq => absurd hq List.not_mem_nil) hrefused
  rcases hreaches.mp h holding (List.mem_singleton_self holding) with hrefuses | hsame
  · rw [haccepted] at hrefuses
    cases hrefuses
  · exact hshows (by rw [hsame])

/-- Of three providers the one in the middle refuses a record: the first one
    has it, and the last one does not.  Without the one in the middle, both
    have it. -/
theorem reaches_iff_none_behind_refusing_middle :
    let c : Change := .save .milestone [1] [10]
    let s : Store := ⟨[Provider.memory, refusing, holding]⟩
    let t : Store := ⟨[Provider.memory, holding]⟩
    (∀ q ∈ [Provider.memory], q.refuses c = false) ∧ refusing.refuses c = true ∧
      s.change c = (.error (.unavailable "memory"),
        ⟨[Provider.memory.changed [c], refusing.attempt, holding]⟩) ∧
      (∀ q ∈ t.providers, q.refuses c = false) ∧
      t.change c = (.ok true, ⟨[Provider.memory.changed [c], holding.changed [c]]⟩) := by
  intro c s t
  have hmemory : Provider.memory.refuses c = false := rfl
  have hfront : ∀ q ∈ [Provider.memory], q.refuses c = false :=
    List.forall_mem_singleton.mpr hmemory
  have hall : ∀ q ∈ t.providers, q.refuses c = false :=
    List.forall_mem_cons.mpr ⟨hmemory, List.forall_mem_singleton.mpr rfl⟩
  obtain ⟨hrefused, -⟩ := reaches_iff_none_behind_refusing s c
  obtain ⟨-, haccepted, -⟩ := reaches_iff_none_behind_refusing t c
  exact ⟨hfront, rfl, hrefused [Provider.memory] refusing [holding] rfl hfront rfl, hall,
    haccepted Provider.memory [holding] rfl hall⟩

/-- Neither a record nor a batch is written behind a provider that refuses,
    and nothing is removed there. -/
theorem not_reaches_behind_refusing :
    let s : Store := ⟨[refusing, holding]⟩
    ¬ s.Reaches (.save .milestone [1] [10]) ∧
      ¬ s.Reaches (.saveAll [⟨.milestone, [1], [10]⟩]) ∧
      ¬ s.Reaches (.delete .milestone [7]) := by
  intro s
  have hsave := not_reaches_holding (c := .save .milestone [1] [10]) rfl rfl [1] (by decide)
  have hbatch := not_reaches_holding (c := .saveAll [⟨.milestone, [1], [10]⟩]) rfl rfl [1] (by decide)
  have hremoval := not_reaches_holding (c := .delete .milestone [7]) rfl rfl [7] (by decide)
  exact ⟨hsave, hbatch, hremoval⟩

end Store

end TernaryGossip
