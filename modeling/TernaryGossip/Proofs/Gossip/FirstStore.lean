import TernaryGossip.Gossip.Node
import TernaryGossip.Proofs.Gossip.Wanted
import TernaryGossip.Proofs.Tangle.Storing

/-! # What follows a first store

    When a transaction is stored for the first time, its arrival is stamped,
    its sender is credited, the tips are brought up to date, its missing
    parents are wanted, it is wanted no longer, and it is queued to be
    passed on.

    `onFirstStore_frame` says which parts of a node change whatever the store
    answers.  Over fault-free providers `onFirstStore_faultFree` says what
    they become, and over one of them `onFirstStore_eq` says it in terms of
    its tables. -/

namespace TernaryGossip

/-- The transaction with the time and the sender of its arrival. -/
def Transaction.stamped (t : Transaction) (now : Int64) (sender : String) : Transaction :=
  { t with facts := (t.facts.learn (.arrival now)).learn (.sender sender) }

/-- What is written when an arrival is stamped. -/
def Transaction.stamping (t : Transaction) (now : Int64) (sender : String) : List Change :=
  t.learning (.arrival now) ++
    Transaction.learning { t with facts := t.facts.learn (.arrival now) } (.sender sender)

/-- The parents of a transaction that are not stored. -/
def Transaction.missingParents (t : Transaction) (s : Store) : List Hash :=
  [t.trunk, t.branch].filter fun parent => ¬ s.Stored parent

/-- The tips without several hashes. -/
def Tips.removeAll (ts : Tips) (hs : List Hash) : Tips :=
  hs.foldl (fun ts h => (ts.remove h).2) ts

/-- The tips once a transaction is stored that some others refer to: it is
    one if there are no such others, and its parents are none. -/
def Tips.withApprovers (ts : Tips) (approvers : List Hash) (t : Transaction) : Tips :=
  (if approvers.isEmpty then (ts.add t.hash).2 else ts).removeAll [t.trunk, t.branch]

/-- The tips once a transaction is in the tables: it is one unless something
    refers to it, and its parents are none. -/
def Tips.withStored (ts : Tips) (T : Tables) (t : Transaction) : Tips :=
  let approvers := (Provider.keysFrom (T.table .approvers) t.hash.bytes).filterMap Key.referrer?
  (if approvers.isEmpty then (ts.add t.hash).2 else ts).removeAll [t.trunk, t.branch]

namespace Node

/-! ## Any providers -/

theorem stampArrival_frame (n : Node) (t : Transaction) (now : Int64) (sender : String) :
    ∃ facts store, n.stampArrival t now sender = ({ t with facts }, { n with store }) ∧
      ∀ h, n.store.Stored h → store.Stored h := by
  have hstored := fun h => t.stored_learn (.arrival now) (s := n.store) (h := h)
  have hsame := t.learn_transaction n.store (.arrival now)
  unfold stampArrival
  split
  · next t' store hlearn =>
    rw [hlearn] at hstored hsame
    exact ⟨t'.facts, store, congrArg (·, { n with store }) hsame, hstored⟩
  · next t' store hlearn =>
    -- the time was learned, so the sender is learned after it
    rw [hlearn] at hstored hsame
    have hsame' : (t'.learn store (.sender sender)).2.1 =
        { t with facts := (t'.learn store (.sender sender)).2.1.facts } := by
      rw [t'.learn_transaction store (.sender sender)]
      simp only at hsame
      rw [hsame]
    exact ⟨_, (t'.learn store (.sender sender)).2.2,
      congrArg (·, { n with store := (t'.learn store (.sender sender)).2.2 }) hsame',
      fun h hs => t'.stored_learn (.sender sender) (hstored h hs)⟩

theorem visitParents_frame (n : Node) (parents : List Hash) :
    ∃ tips wanted, n.visitParents parents = { n with tips, wanted } := by
  induction parents generalizing n with
  | nil => exact ⟨n.tips, n.wanted, rfl⟩
  | cons parent rest ih =>
    unfold visitParents
    simp only
    split
    · exact ih _
    · split
      · exact ⟨_, n.wanted, rfl⟩
      · exact ih _
      · exact ih _

theorem updateTips_frame (n : Node) (t : Transaction) :
    ∃ tips wanted, n.updateTips t = { n with tips, wanted } := by
  unfold updateTips
  split
  · exact ⟨n.tips, n.wanted, rfl⟩
  · simp only
    split
    · exact visitParents_frame _ _
    · exact visitParents_frame _ _

theorem onFirstStore_frame (n : Node) (t : Transaction) (neighbor : Neighbor) (now : Int64) :
    ∃ store tips wanted outgoing,
      n.onFirstStore t neighbor now =
        { n with store, roster := n.roster.bump neighbor .fresh, tips, wanted, outgoing } ∧
        ∀ h, n.store.Stored h → store.Stored h := by
  obtain ⟨facts, store, hstamp, hstored⟩ := n.stampArrival_frame t now neighbor.address.text
  unfold onFirstStore
  simp only [hstamp]
  obtain ⟨tips, wanted, hupdate⟩ :=
    ({ n with store }.bump neighbor .fresh).updateTips_frame { t with facts }
  rw [hupdate]
  exact ⟨store, tips, _, _, rfl, hstored⟩

/-! ## Tips and parents

    A store that says of every hash whether it is stored, and who approves
    the transaction. -/

section answering
variable {n : Node}
  (h : ∀ g, Transaction.isStored n.store g = .ok (decide (n.store.Stored g)))
include h

theorem visitParents_eq (parents : List Hash) :
    n.visitParents parents =
      { n with
        tips := n.tips.removeAll parents
        wanted := n.wanted.requestAll (parents.filter fun parent => ¬ n.store.Stored parent) } := by
  induction parents generalizing n with
  | nil => rfl
  | cons parent rest ih =>
    have hstored := h parent
    -- the other parents do not depend on what is wanted so far
    have hrest : ∀ wanted, { n with tips := (n.tips.remove parent).2, wanted }.visitParents rest =
        { n with
          tips := n.tips.removeAll (parent :: rest)
          wanted := wanted.requestAll (rest.filter fun parent => ¬ n.store.Stored parent) } :=
      fun wanted => ih (n := { n with tips := (n.tips.remove parent).2, wanted }) h
    unfold visitParents
    simp only [hstored]
    by_cases hs : n.store.Stored parent
    · have hskip : (parent :: rest).filter (fun parent => ¬ n.store.Stored parent) =
          rest.filter fun parent => ¬ n.store.Stored parent :=
        List.filter_cons_of_neg (by simp [hs])
      simp only [hs, decide_true, hskip]
      split <;> exact hrest n.wanted
    · -- an unknown parent is asked for; asking for the null hash does nothing
      have hask : (parent :: rest).filter (fun parent => ¬ n.store.Stored parent) =
          parent :: rest.filter fun parent => ¬ n.store.Stored parent :=
        List.filter_cons_of_pos (by simp [hs])
      simp only [hs, decide_false, hask, Wanted.requestAll_cons]
      split
      · next hnull =>
        rw [n.wanted.request_of_isNull hnull]
        exact hrest n.wanted
      · exact hrest (n.wanted.request parent).2

theorem updateTips_of_approvers {t : Transaction} {approvers : List Hash}
    (happrovers : t.approvers n.store = .ok approvers) :
    n.updateTips t =
      { n with
        tips := n.tips.withApprovers approvers t
        wanted := n.wanted.requestAll (t.missingParents n.store) } := by
  unfold updateTips
  simp only [happrovers, Tips.withApprovers]
  split
  · exact visitParents_eq (n := { n with tips := (n.tips.add t.hash).2 }) h [t.trunk, t.branch]
  · exact visitParents_eq h [t.trunk, t.branch]

end answering

/-! ## Fault-free providers -/

section faultFree
variable {n : Node} (h : n.store.FaultFree)
include h

theorem stampArrival_faultFree (t : Transaction) (now : Int64) (sender : String) :
    n.stampArrival t now sender =
      (t.stamped now sender, { n with store := n.store.changeAll (t.stamping now sender) }) := by
  obtain ⟨b, hlearn⟩ := h.learn t (.arrival now)
  obtain ⟨b', hlearn'⟩ := (h.changeAll (t.learning (.arrival now))).2.learn
    { t with facts := t.facts.learn (.arrival now) } (.sender sender)
  have happend : n.store.changeAll (t.stamping now sender) =
      (n.store.changeAll (t.learning (.arrival now))).changeAll
        (Transaction.learning { t with facts := t.facts.learn (.arrival now) }
          (.sender sender)) := List.foldl_append
  simp only [stampArrival, hlearn, hlearn', happend]
  rfl

/-- Everything that a first store changes. -/
theorem onFirstStore_faultFree (t : Transaction) (neighbor : Neighbor) (now : Int64) :
    ∃ approvers,
      let store := n.store.changeAll (t.stamping now neighbor.address.text)
      t.approvers store = .ok approvers ∧
      n.onFirstStore t neighbor now =
        { n with
          store
          roster := n.roster.bump neighbor .fresh
          tips := n.tips.withApprovers approvers t
          wanted := ((n.wanted.requestAll (t.missingParents store)).clear t.hash).2
          outgoing := (n.outgoing.push t.priority (t.stamped now neighbor.address.text)).2 } := by
  have hstamp := stampArrival_faultFree h t now neighbor.address.text
  have hfree := (h.changeAll (t.stamping now neighbor.address.text)).2
  obtain ⟨approvers, happrovers⟩ := hfree.approvers t
  have hupdate : ({ n with
      store := n.store.changeAll (t.stamping now neighbor.address.text) }.bump neighbor
        .fresh).updateTips (t.stamped now neighbor.address.text) = _ :=
    updateTips_of_approvers hfree.isStored happrovers
  refine ⟨approvers, happrovers, ?_⟩
  unfold onFirstStore
  simp only [hstamp, hupdate]
  rfl

end faultFree

/-- Everything that a first store changes over one fault-free provider. -/
theorem onFirstStore_eq {n : Node} {T : Tables} (h : n.store.Keeps T) (t : Transaction)
    (neighbor : Neighbor) (now : Int64) :
    ∃ store T', store.Keeps T' ∧ T.Alike T' ∧
      n.onFirstStore t neighbor now =
        { n with
          store
          roster := n.roster.bump neighbor .fresh
          tips := n.tips.withStored T' t
          wanted := ((n.wanted.requestAll (t.missingParents store)).clear t.hash).2
          outgoing := (n.outgoing.push t.priority (t.stamped now neighbor.address.text)).2 } := by
  obtain ⟨approvers, happrovers, heq⟩ := onFirstStore_faultFree h.faultFree t neighbor now
  have hkeeps := h.changeAll (t.stamping now neighbor.address.text)
  have halike : T.Alike (T.changed (t.stamping now neighbor.address.text)) := by
    rw [Transaction.stamping, Tables.changed_append]
    exact (T.alike_learning t _).trans (Tables.alike_learning _ _ _)
  -- the approvers are read from the tables
  rw [hkeeps.approvers] at happrovers
  cases happrovers
  exact ⟨_, _, hkeeps, halike, heq⟩

end Node

end TernaryGossip
