import TernaryGossip.Proofs.Tangle.Trunk
import TernaryGossip.Tangle.Height

/-! # The way down the trunks

    The descent follows the trunks and keeps the hashes it passes: these are
    stored, not null, and without a height.  They are pairwise different if
    there is no circle, so the descent cannot pass more of them than there
    are payloads, and it ends where it has to. -/

namespace TernaryGossip

open Relation (ReflTransGen TransGen)

namespace Tables

/-! ## The way down -/

/-- The hashes passed on the way from the trunk of a transaction down to a
    hash, the last one in front. -/
inductive Descent (T : Tables) (h : Hash) : List Hash → Hash → Prop
  /-- It begins at the trunk. -/
  | start {g : Hash} (htrunk : T.Trunk h g) : Descent T h [] g
  /-- A transaction without a height is passed. -/
  | pass {passed : List Hash} {g : Hash} {u : Transaction} (hd : Descent T h passed g)
      (hnull : g.isNull = false) (hu : T.Loads g u) (hzero : T.height g = 0) :
      Descent T h (g :: passed) u.trunk

namespace Descent

variable {T T' : Tables} {h g k : Hash} {passed : List Hash} {m : Nat}

theorem cons_inv (hd : T.Descent h (g :: passed) k) :
    ∃ u, T.Descent h passed g ∧ g.isNull = false ∧ T.Loads g u ∧ T.height g = 0 ∧ u.trunk = k := by
  cases hd with
  | pass hd hnull hu hzero => exact ⟨_, hd, hnull, hu, hzero, rfl⟩

/-- From the start and from every hash that was passed, trunks lead on. -/
theorem leads (hd : T.Descent h passed k) {x : Hash} (hx : x ∈ passed ++ [h]) :
    TransGen T.Trunk x k := by
  induction hd with
  | start htrunk =>
    obtain rfl : x = h := by simpa using hx
    exact .single htrunk
  | pass hd _ hu _ ih =>
    rcases List.mem_cons.mp hx with rfl | hx
    · exact .single hu.trunk
    · exact .tail (ih hx) hu.trunk

theorem chain (hd : T.Descent h passed k) : T.Chain h k := by
  have hmem : h ∈ passed ++ [h] := by simp
  exact (hd.leads hmem).to_reflTransGen

/-- Every hash passed is on the chain. -/
theorem chain_of_mem (hd : T.Descent h passed k) {x : Hash} (hx : x ∈ passed ++ [h]) :
    T.Chain h x := by
  induction hd with
  | start htrunk =>
    obtain rfl : x = h := by simpa using hx
    exact .refl
  | pass hd _ _ _ ih =>
    rcases List.mem_cons.mp hx with rfl | hx
    · exact hd.chain
    · exact ih hx

/-- No hash is passed twice, nor the start. -/
theorem nodup (hd : T.Descent h passed k) (hacyclic : T.Acyclic) : (passed ++ [h]).Nodup := by
  induction hd with
  | start => simp
  | pass hd _ _ _ ih =>
    refine List.nodup_cons.mpr ⟨fun hmem => ?_, ih⟩
    exact hacyclic _ (hd.leads hmem)

theorem stored (hd : T.Descent h passed k) {x : Hash} (hx : x ∈ passed) : T.Stored x := by
  induction hd with
  | start => cases hx
  | pass _ _ hu _ ih =>
    rcases List.mem_cons.mp hx with rfl | hx
    · exact hu.stored
    · exact ih hx

/-- There are not more hashes to pass than payloads. -/
theorem length_le (hd : T.Descent h passed k) (hacyclic : T.Acyclic) :
    passed.length ≤ (T.table .transaction).size := by
  have hnodup : (passed.map Key.ofHash).Nodup := by
    have hpassed := (List.nodup_append.mp (hd.nodup hacyclic)).1
    exact List.pairwise_map.mpr (hpassed.imp fun hne heq => hne (Key.ofHash_inj.mp heq))
  have hsub : passed.map Key.ofHash ⊆ (T.table .transaction).keys := by
    intro key hkey
    obtain ⟨x, hx, rfl⟩ := List.mem_map.mp hkey
    exact (OrderedMap.contains_iff_mem_keys _ _).mp (hd.stored hx)
  have hle := hnodup.length_le_of_subset hsub
  rwa [List.length_map, OrderedMap.keys, List.length_map] at hle

/-- What was passed is further away than the end. -/
theorem distance (hd : T.Descent h passed k) (hacyclic : T.Acyclic) (hk : T.Distance k m)
    {x : Hash} (hx : x ∈ passed ++ [h]) : ∃ n, m < n ∧ T.Distance x n := by
  induction hd generalizing m with
  | start htrunk =>
    obtain rfl : x = h := by simpa using hx
    exact ⟨m + 1, by omega, .above (hacyclic.not_isNull htrunk hk) htrunk hk⟩
  | pass hd hnull hu _ ih =>
    have hg := Distance.above hnull hu.trunk hk
    rcases List.mem_cons.mp hx with rfl | hx
    · exact ⟨m + 1, by omega, hg⟩
    · obtain ⟨n, hlt, hn⟩ := ih hg hx
      exact ⟨n, by omega, hn⟩

/-- Whatever was passed is farther from the null hash than the end. -/
theorem distance_lt (hd : T.Descent h passed k) (hacyclic : T.Acyclic) (hk : T.Distance k m)
    {x : Hash} (hx : x ∈ passed ++ [h]) {n : Nat} (hn : T.Distance x n) : m < n := by
  obtain ⟨n', hlt, hn'⟩ := hd.distance hacyclic hk hx
  rw [hn.unique hn']
  exact hlt

/-- The chain consists of what was passed and the chain of the end. -/
theorem mem_or_chain (hd : T.Descent h passed k) {x : Hash} (hx : T.Chain h x) :
    x ∈ passed ++ [h] ∨ T.Chain k x := by
  induction hd with
  | start htrunk =>
    rcases hx.cases_head with rfl | ⟨g, htrunk', hchain⟩
    · exact .inl (by simp)
    · exact .inr (htrunk'.unique htrunk ▸ hchain)
  | pass _ _ hu _ ih =>
    rcases ih with hmem | hchain
    · exact .inl (List.mem_cons_of_mem _ hmem)
    · rcases hchain.cases_head with rfl | ⟨g, htrunk, hchain⟩
      · exact .inl List.mem_cons_self
      · exact .inr (htrunk.unique hu.trunk ▸ hchain)

/-- If the null hash is reached from the start, it is from the end. -/
theorem distance_end (hd : T.Descent h passed k) (hnull : h.isNull = false)
    {n : Nat} (hn : T.Distance h n) : ∃ m, T.Distance k m := by
  have hstep : ∀ {x y : Hash} {n : Nat}, x.isNull = false → T.Trunk x y → T.Distance x n →
      ∃ m, T.Distance y m := by
    intro x y n hx htrunk hn
    cases hn with
    | null hnull => rw [hx] at hnull; cases hnull
    | above _ htrunk' hy => exact ⟨_, htrunk'.unique htrunk ▸ hy⟩
  induction hd with
  | start htrunk => exact hstep hnull htrunk hn
  | pass _ hg hu _ ih =>
    obtain ⟨m, hm⟩ := ih
    exact hstep hg hu.trunk hm

/-- A height written elsewhere does not change the way. -/
theorem heightSet (hd : T.Descent h passed k) {v : UInt64} (hset : T.HeightSet g v T')
    (hg : g ∉ passed) : T'.Descent h passed k := by
  induction hd with
  | start htrunk => exact .start (by rw [hset.alike.trunk_eq]; exact htrunk)
  | @pass passed x u hd hnull hu hzero ih =>
    have hne : x ≠ g := fun heq => hg (heq ▸ List.mem_cons_self)
    have hrest : g ∉ passed := fun hmem => hg (List.mem_cons_of_mem x hmem)
    exact .pass (ih hrest) hnull ((hset.loads_of_ne hne).mpr hu)
      (by rw [hset.height_of_ne hne, hzero])

end Descent

end Tables

namespace Transaction

variable {s : Store} {T : Tables} {t u w : Transaction} {h : Hash} {passed : List Hash}

/-- The descent goes on at a transaction that is known, is not null, and has
    no height. -/
def Passable (trunk : Transaction) : Prop :=
  trunk.facts.height = 0 ∧ trunk.isFilled = true ∧ trunk.hash.isNull = false

theorem descend_of_passable (steps : Nat) (passed : List Hash) (hw : w.Passable) :
    descend s (steps + 1) passed w =
      (load s w.trunk).bind fun next => descend s steps (w.hash :: passed) next := by
  have hcond : w.facts.height = 0 ∧ w.isFilled = true ∧ ¬ w.hash.isNull = true :=
    ⟨hw.1, hw.2.1, by simp [hw.2.2]⟩
  rw [descend, if_pos hcond]
  rfl

theorem descend_of_not_passable (steps : Nat) (passed : List Hash) (hw : ¬ w.Passable) :
    descend s steps passed w = .ok (passed, w) := by
  cases steps with
  | zero => rfl
  | succ steps =>
    rw [descend, if_neg]
    rintro ⟨hheight, hfilled, hnull⟩
    exact hw ⟨hheight, hfilled, by simpa using hnull⟩

theorem hash_of_load {k : Hash} (hs : s.Gets T) (hload : load s k = .ok w) : w.hash = k := by
  rcases hs.load_ok_iff.mp hload with ⟨rfl, _⟩ | ⟨_, hw⟩
  · rfl
  · exact hw.hash

/-- What is passed is stored, and on the way. -/
theorem descent_of_passable {k : Hash} (hs : s.Gets T) (hd : T.Descent h passed k)
    (hload : load s k = .ok w) (hw : w.Passable) : T.Descent h (w.hash :: passed) w.trunk := by
  have hhash := hash_of_load hs hload
  rcases hs.load_ok_iff.mp hload with ⟨rfl, _⟩ | ⟨hnull, hloads⟩
  · have hfilled := hw.2.1
    rw [isFilled_placeholder] at hfilled
    cases hfilled
  · have hzero : T.height k = 0 := by rw [← hloads.height_eq, hw.1]
    rw [hhash]
    exact .pass hd hnull hloads hzero

/-- With more steps than there are payloads left, the descent ends for its
    own reason, and further steps would change nothing. -/
theorem descend_settles {k : Hash} (hs : s.Keeps T) (hacyclic : T.Acyclic)
    (hd : T.Descent h passed k) (hload : load s k = .ok w) {steps : Nat}
    (hsteps : (T.table .transaction).size < passed.length + steps) (extra : Nat) :
    descend s (steps + extra) passed w = descend s steps passed w := by
  induction steps generalizing passed k w with
  | zero =>
    have hle := hd.length_le hacyclic
    omega
  | succ steps ih =>
    by_cases hw : w.Passable
    · have hadd : steps + 1 + extra = steps + extra + 1 := by omega
      rw [hadd, descend_of_passable _ _ hw, descend_of_passable _ _ hw]
      cases hnext : load s w.trunk with
      | error e => rfl
      | ok next =>
        have hpass := descent_of_passable hs.gets hd hload hw
        exact ih hpass hnext (by rw [List.length_cons]; omega)
    · rw [descend_of_not_passable _ _ hw, descend_of_not_passable _ _ hw]

/-- The descent stays on the way, wherever it ends; where it might go on, no
    steps were left. -/
theorem descent_of_descend {k : Hash} (hs : s.Gets T) (hd : T.Descent h passed k)
    (hload : load s k = .ok w) {steps : Nat} {passed' : List Hash} {bottom : Transaction}
    (hrun : descend s steps passed w = .ok (passed', bottom)) :
    T.Descent h passed' bottom.hash ∧ load s bottom.hash = .ok bottom ∧
      (bottom.Passable → passed'.length = passed.length + steps) := by
  induction steps generalizing passed k w with
  | zero =>
    have hhash := hash_of_load hs hload
    cases hrun
    rw [hhash]
    exact ⟨hd, hload, fun _ => rfl⟩
  | succ steps ih =>
    by_cases hw : w.Passable
    · rw [descend_of_passable _ _ hw] at hrun
      cases hnext : load s w.trunk with
      | error e =>
        rw [hnext] at hrun
        cases hrun
      | ok next =>
        rw [hnext] at hrun
        obtain ⟨hd', hload', hlength⟩ := ih (descent_of_passable hs hd hload hw) hnext hrun
        refine ⟨hd', hload', fun hbottom => ?_⟩
        rw [hlength hbottom, List.length_cons]
        omega
    · have hhash := hash_of_load hs hload
      rw [descend_of_not_passable _ _ hw] at hrun
      cases hrun
      rw [hhash]
      exact ⟨hd, hload, fun hw' => absurd hw' hw⟩

/-- Where the descent ends, it may not go on. -/
theorem descend_ok {k : Hash} (hs : s.Keeps T) (hacyclic : T.Acyclic)
    (hd : T.Descent h passed k) (hload : load s k = .ok w) {steps : Nat}
    (hsteps : (T.table .transaction).size < passed.length + steps) {passed' : List Hash}
    {bottom : Transaction} (hrun : descend s steps passed w = .ok (passed', bottom)) :
    T.Descent h passed' bottom.hash ∧ load s bottom.hash = .ok bottom ∧ ¬ bottom.Passable := by
  obtain ⟨hd', hload', hlength⟩ := descent_of_descend hs.gets hd hload hrun
  refine ⟨hd', hload', fun hbottom => ?_⟩
  have hle := hd'.length_le hacyclic
  rw [hlength hbottom] at hle
  omega

theorem exists_load {k : Hash} (hs : s.Keeps T)
    (hk : k.isNull = false → T.Stored k → ∃ u, T.Loads k u) : ∃ w, load s k = .ok w := by
  by_cases hmissing : k.isNull = true ∨ ¬ T.Stored k
  · exact ⟨.placeholder k, hs.load_ok_iff.mpr (.inl ⟨rfl, hmissing⟩)⟩
  · simp only [not_or, Bool.not_eq_true, not_not] at hmissing
    obtain ⟨u, hu⟩ := hk hmissing.1 hmissing.2
    exact ⟨u, hs.load_of_loads hmissing.1 hu⟩

/-- The descent succeeds if everything that is stored on the chain can be
    read. -/
theorem exists_descend {k : Hash} (hs : s.Keeps T)
    (hreadable : ∀ g, T.Chain h g → g.isNull = false → T.Stored g → ∃ u, T.Loads g u)
    (hd : T.Descent h passed k) (hload : load s k = .ok w) (steps : Nat) :
    ∃ r, descend s steps passed w = .ok r := by
  induction steps generalizing passed k w with
  | zero => exact ⟨_, rfl⟩
  | succ steps ih =>
    by_cases hw : w.Passable
    · have hpass := descent_of_passable hs.gets hd hload hw
      obtain ⟨next, hnext⟩ := exists_load hs (hreadable w.trunk hpass.chain)
      obtain ⟨r, hr⟩ := ih hpass hnext
      exact ⟨r, by rw [descend_of_passable _ _ hw, hnext]; exact hr⟩
    · exact ⟨_, descend_of_not_passable _ _ hw⟩

end Transaction

end TernaryGossip
