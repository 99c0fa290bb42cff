import Mathlib.Data.Finset.Insert
import Mathlib.Data.Finset.Card
import TernaryGossip.Proofs.Gossip.Wanted
import TernaryGossip.Proofs.Tangle.Loading

/-! # Taking turns

    A line of wanted hashes can keep the set of its members beside it, so
    that looking up a hash does not walk along the line.  Then every
    operation has two structures to change: a request joins both, the front
    that is pushed out leaves both, and clearing takes a hash out of the
    middle.  If they ever disagreed, a hash might never be asked for again,
    or take up room for ever.

    They never disagree, and the line without the set gives the same replies.
    As no hash stands twice in the line, asking as many times as there are
    members asks for each of them once, and then the line is as before. -/

namespace TernaryGossip.Wanted

/-! ## The line and the set of its members -/

/-- A line of hashes with the set of its members. -/
structure Indexed where
  /-- The hashes, the next to ask for in front. -/
  order : List Hash
  /-- The hashes in the line. -/
  members : Finset Hash
  /-- How many hashes fit, at least one. -/
  capacity : Nat

namespace Indexed

/-- Nothing is wanted. -/
def empty (capacity : Nat) : Indexed := ⟨[], ∅, max capacity 1⟩

/-- The line without the set. -/
def plain (q : Indexed) : Wanted := ⟨q.order, q.capacity⟩

/-- The hash is wanted; only the set is asked. -/
def contains (q : Indexed) (h : Hash) : Bool := decide (h ∈ q.members)

/-- The number of wanted hashes, by the set. -/
def size (q : Indexed) : Nat := q.members.card

/-- The front leaves a line that is too long. -/
def trim (q : Indexed) : Indexed :=
  if q.order.length > q.capacity then
    match q.order with
    | [] => q
    | oldest :: rest => { q with order := rest, members := q.members.erase oldest }
  else q

/-- Adds a hash; says whether it is new.  The null hash is never wanted. -/
def request (q : Indexed) (h : Hash) : Bool × Indexed :=
  if h.isNull then (false, q)
  else if h ∈ q.members then (false, q)
  else (true, { q with order := q.order ++ [h], members := insert h q.members }.trim)

/-- Removes a hash; says whether it was wanted. -/
def clear (q : Indexed) (h : Hash) : Bool × Indexed :=
  if h ∈ q.members then
    (true, { q with order := q.order.filter (· ≠ h), members := q.members.erase h })
  else (false, q)

/-- The hash to ask for next, which goes to the end of the line. -/
def next (q : Indexed) : Option Hash × Indexed :=
  match q.order with
  | [] => (none, q)
  | h :: rest => (some h, { q with order := rest ++ [h] })

end Indexed

/-! ## Calls and replies -/

/-- What can be called. -/
inductive Call
  /-- Adds a hash. -/
  | request (h : Hash)
  /-- Removes a hash. -/
  | clear (h : Hash)
  /-- Asks for the next hash. -/
  | next
  deriving DecidableEq

/-- What a call replies. -/
inductive Reply
  /-- Whether the hash was added or removed. -/
  | done (b : Bool)
  /-- The hash to ask for. -/
  | ask (h : Option Hash)
  deriving DecidableEq

/-- Replies to a call. -/
def reply (w : Wanted) : Call → Reply × Wanted
  | .request h => (.done (w.request h).1, (w.request h).2)
  | .clear h => (.done (w.clear h).1, (w.clear h).2)
  | .next => (.ask w.next.1, w.next.2)

/-- Replies to a call. -/
def Indexed.reply (q : Indexed) : Call → Reply × Indexed
  | .request h => (.done (q.request h).1, (q.request h).2)
  | .clear h => (.done (q.clear h).1, (q.clear h).2)
  | .next => (.ask q.next.1, q.next.2)

/-- Replies to calls, one after another. -/
def replies {State : Type} (reply : State → Call → Reply × State) (now : State) :
    List Call → List Reply × State
  | [] => ([], now)
  | c :: cs =>
    let rest := replies reply (reply now c).2 cs
    ((reply now c).1 :: rest.1, rest.2)

/-! ## The set and the line agree -/

namespace Indexed

/-- The set has the hashes of the line, none of which stands there twice. -/
structure Agrees (q : Indexed) : Prop where
  nodup : q.order.Nodup
  members : ∀ h, h ∈ q.members ↔ h ∈ q.order
  proper : ∀ h ∈ q.order, ¬ h.isNull = true

namespace Agrees

variable {q : Indexed} (hagrees : q.Agrees)
include hagrees

theorem size_eq : q.size = q.order.length := by
  have hset : q.members = q.order.toFinset := by
    ext h
    rw [List.mem_toFinset, hagrees.members]
  rw [size, hset, List.toFinset_card_of_nodup hagrees.nodup]

theorem contains_eq (h : Hash) : q.contains h = q.plain.contains h := by
  rw [Bool.eq_iff_iff, contains, decide_eq_true_iff, hagrees.members]
  exact List.contains_iff_mem.symm

/-- A new hash joins the line and the set. -/
theorem push {h : Hash} (hnull : ¬ h.isNull = true) (hnew : h ∉ q.members) :
    Agrees { q with order := q.order ++ [h], members := insert h q.members } where
  nodup := by
    refine List.nodup_append.mpr ⟨hagrees.nodup, List.nodup_singleton h, ?_⟩
    rintro g hg _ hh rfl
    rw [List.mem_singleton.mp hh] at hg
    exact hnew ((hagrees.members h).mpr hg)
  members g := by
    rw [Finset.mem_insert, List.mem_append, List.mem_singleton, hagrees.members]
    exact or_comm
  proper g hg := by
    rcases List.mem_append.mp hg with hg | hg
    · exact hagrees.proper g hg
    · rwa [List.mem_singleton.mp hg]

/-- The front leaves the line and the set: it does not stand further back. -/
theorem trim : q.trim.Agrees := by
  unfold Indexed.trim
  split
  · split
    · exact hagrees
    · next oldest rest horder =>
      obtain ⟨hnodup, hmembers, hproper⟩ := hagrees
      rw [horder] at hnodup hproper
      obtain ⟨hfront, hrest⟩ := List.nodup_cons.mp hnodup
      refine ⟨hrest, fun g => ?_, fun g hg => hproper g (List.mem_cons_of_mem oldest hg)⟩
      -- taking the front out of the set takes nothing else of the line out of it
      rw [Finset.mem_erase, hmembers, horder, List.mem_cons]
      constructor
      · rintro ⟨hne, rfl | hg⟩
        · exact absurd rfl hne
        · exact hg
      · rintro hg
        exact ⟨ne_of_mem_of_not_mem hg hfront, .inr hg⟩
  · exact hagrees

/-- A hash leaves the line and the set. -/
theorem remove (h : Hash) :
    Agrees { q with order := q.order.filter (· ≠ h), members := q.members.erase h } where
  nodup := hagrees.nodup.filter _
  members g := by
    rw [Finset.mem_erase, hagrees.members, List.mem_filter, decide_eq_true_iff]
    exact and_comm
  proper g hg := hagrees.proper g (List.mem_of_mem_filter hg)

/-- The front goes to the end. -/
theorem turn {h : Hash} {rest : List Hash} (horder : q.order = h :: rest) :
    Agrees { q with order := rest ++ [h] } := by
  obtain ⟨hnodup, hmembers, hproper⟩ := hagrees
  have hperm : (rest ++ [h]).Perm q.order := horder ▸ List.perm_append_singleton h rest
  exact ⟨hperm.nodup_iff.mpr hnodup, fun g => (hmembers g).trans hperm.mem_iff.symm,
    fun g hg => hproper g (hperm.mem_iff.mp hg)⟩

end Agrees

/-! ## Every call keeps them so -/

@[simp] theorem capacity_trim (q : Indexed) : q.trim.capacity = q.capacity := by
  unfold trim
  split
  · split <;> rfl
  · rfl

theorem order_trim (q : Indexed) :
    q.trim.order = if q.order.length > q.capacity then q.order.tail else q.order := by
  unfold trim
  split
  · split
    · next horder => rw [horder]; rfl
    · next horder => rw [horder]; rfl
  · rfl

theorem plain_trim (q : Indexed) :
    q.trim.plain =
      ⟨if q.order.length > q.capacity then q.order.tail else q.order, q.capacity⟩ := by
  rw [plain, order_trim, capacity_trim]

/-- A line that was one too long has room again. -/
theorem length_order_trim {q : Indexed} (h : q.order.length ≤ q.capacity + 1) :
    q.trim.order.length ≤ q.capacity := by
  rw [order_trim]
  split
  · rw [List.length_tail]
    omega
  · omega

/-- What holds of the line and the set at all times. -/
structure Sound (q : Indexed) : Prop extends q.Agrees where
  bounded : q.order.length ≤ q.capacity

theorem sound_empty (capacity : Nat) : (Indexed.empty capacity).Sound where
  nodup := List.nodup_nil
  members h := by simp [Indexed.empty]
  proper h hh := absurd hh List.not_mem_nil
  bounded := Nat.zero_le _

namespace Sound

variable {q : Indexed} (hsound : q.Sound)
include hsound

/-- A call keeps the set and the line as they should be, and the line alone
    gives the same reply. -/
theorem request (h : Hash) :
    (q.request h).2.Sound ∧
      q.plain.request h = ((q.request h).1, (q.request h).2.plain) := by
  unfold Indexed.request Wanted.request
  by_cases hnull : h.isNull = true
  · rw [if_pos hnull, if_pos (.inl hnull)]
    exact ⟨hsound, rfl⟩
  · by_cases hold : h ∈ q.members
    · have hcontains : q.plain.contains h = true := by
        rw [← hsound.contains_eq, contains, decide_eq_true hold]
      rw [if_neg hnull, if_pos hold, if_pos (.inr hcontains)]
      exact ⟨hsound, rfl⟩
    · have hcontains : ¬ q.plain.contains h = true := by
        rw [← hsound.contains_eq, contains, decide_eq_false hold]
        exact Bool.false_ne_true
      rw [if_neg hnull, if_neg hold, if_neg (not_or.mpr ⟨hnull, hcontains⟩)]
      -- before it is trimmed, the line is at most one too long
      refine ⟨⟨(hsound.push hnull hold).trim, ?_⟩, ?_⟩
      · rw [capacity_trim]
        apply length_order_trim
        rw [List.length_append, List.length_singleton]
        exact Nat.succ_le_succ hsound.bounded
      · rw [plain_trim]
        rfl

theorem clear (h : Hash) :
    (q.clear h).2.Sound ∧ q.plain.clear h = ((q.clear h).1, (q.clear h).2.plain) := by
  unfold Indexed.clear Wanted.clear
  rw [← hsound.contains_eq, contains]
  split
  · next hold =>
    rw [decide_eq_true hold]
    exact ⟨⟨hsound.remove h, (List.length_filter_le _ _).trans hsound.bounded⟩, rfl⟩
  · next hnew =>
    -- what is not there is not taken out of the line either
    have hsame : q.order.filter (· ≠ h) = q.order := by
      refine List.filter_eq_self.mpr fun g hg => decide_eq_true ?_
      rintro rfl
      exact hnew ((hsound.members g).mpr hg)
    rw [decide_eq_false hnew, plain, hsame]
    exact ⟨hsound, rfl⟩

theorem next : q.next.2.Sound ∧ q.plain.next = (q.next.1, q.next.2.plain) := by
  unfold Indexed.next Wanted.next
  cases horder : q.order with
  | nil =>
    simp only [plain, horder]
    exact ⟨hsound, trivial⟩
  | cons h rest =>
    simp only [plain, horder]
    refine ⟨⟨hsound.turn horder, ?_⟩, trivial⟩
    have hbounded := hsound.bounded
    rw [horder] at hbounded
    simpa using hbounded

theorem reply (c : Call) :
    (q.reply c).2.Sound ∧ q.plain.reply c = ((q.reply c).1, (q.reply c).2.plain) := by
  cases c with
  | request h =>
    obtain ⟨hkept, hsame⟩ := hsound.request h
    exact ⟨hkept, by rw [Wanted.reply, hsame]; rfl⟩
  | clear h =>
    obtain ⟨hkept, hsame⟩ := hsound.clear h
    exact ⟨hkept, by rw [Wanted.reply, hsame]; rfl⟩
  | next =>
    obtain ⟨hkept, hsame⟩ := hsound.next
    exact ⟨hkept, by rw [Wanted.reply, hsame]; rfl⟩

theorem replies (cs : List Call) :
    (replies Indexed.reply q cs).2.Sound ∧
      Wanted.replies Wanted.reply q.plain cs =
        ((Wanted.replies Indexed.reply q cs).1, (Wanted.replies Indexed.reply q cs).2.plain) := by
  induction cs generalizing q with
  | nil => exact ⟨hsound, rfl⟩
  | cons c cs ih =>
    obtain ⟨hkept, hsame⟩ := hsound.reply c
    obtain ⟨hkept', hsame'⟩ := ih hkept
    refine ⟨hkept', ?_⟩
    simp only [Wanted.replies, hsame, hsame']

end Sound

theorem capacity_reply (q : Indexed) (c : Call) : (q.reply c).2.capacity = q.capacity := by
  cases c with
  | request h =>
    simp only [reply, request]
    split
    · rfl
    · split
      · rfl
      · exact capacity_trim _
  | clear h =>
    simp only [reply, clear]
    split <;> rfl
  | next =>
    simp only [reply, next]
    split <;> rfl

theorem capacity_replies (q : Indexed) (cs : List Call) :
    (replies Indexed.reply q cs).2.capacity = q.capacity := by
  induction cs generalizing q with
  | nil => rfl
  | cons c cs ih => exact (ih (q.reply c).2).trans (q.capacity_reply c)

/-! ## Asking in turn -/

/-- Asking as often as there are hashes in a front part of the line asks for
    each of them and moves the part to the end. -/
theorem replies_front (front back : List Hash) (members : Finset Hash) (capacity : Nat) :
    replies Indexed.reply ⟨front ++ back, members, capacity⟩ (.replicate front.length .next) =
      (front.map fun h => .ask (some h), ⟨back ++ front, members, capacity⟩) := by
  induction front generalizing back with
  | nil => simp [replies]
  | cons h front ih =>
    -- the one that is asked for goes behind those that went before it
    have hturn : Indexed.reply ⟨h :: front ++ back, members, capacity⟩ .next =
        (.ask (some h), ⟨front ++ (back ++ [h]), members, capacity⟩) := by
      rw [← List.append_assoc]
      rfl
    rw [List.length_cons, List.replicate_succ, replies, hturn]
    simp only [ih, List.map_cons, List.append_assoc, List.singleton_append]

/-- A whole round brings back the line. -/
theorem Sound.replies_round {q : Indexed} (hsound : q.Sound) :
    Wanted.replies Indexed.reply q (.replicate q.size .next) =
      (q.order.map fun h => .ask (some h), q) := by
  have hround := replies_front q.order [] q.members q.capacity
  rwa [List.append_nil, List.nil_append, ← hsound.size_eq] at hround

/-- Whatever is called, beginning with an empty line of any capacity, the
    line and the line with a set beside it give the same replies.  They have
    exactly the members of the set, each of them once, never the null hash,
    and not more than fit.  Asking as many times as there are members asks
    for each of them, once, in the order of the line, and leaves everything
    as it was. -/
theorem takes_turns (capacity : Nat) (cs : List Call) :
    let q := (replies Indexed.reply (.empty capacity) cs).2
    let w := (replies Wanted.reply (.empty capacity) cs).2
    let round : List Call := .replicate w.size .next
    (replies Wanted.reply (.empty capacity) cs).1 =
        (replies Indexed.reply (.empty capacity) cs).1 ∧
      w = q.plain ∧ q.order.Nodup ∧ (∀ h, h ∈ q.order ↔ h ∈ q.members) ∧
      Hash.null ∉ q.members ∧ w.size = q.size ∧ q.size ≤ max capacity 1 ∧
      replies Indexed.reply q round = (q.order.map fun h => .ask (some h), q) ∧
      replies Wanted.reply w round = (w.line.map fun h => .ask (some h), w) ∧
      ∀ h, (replies Wanted.reply w round).1.count (.ask (some h)) =
        if h ∈ q.members then 1 else 0 := by
  intro q w round
  obtain ⟨hsound, hplain⟩ := (sound_empty capacity).replies cs
  have hw : w = q.plain := congrArg Prod.snd hplain
  have hsize : w.size = q.size := by
    rw [hw, hsound.size_eq]
    rfl
  have hroom : q.capacity = max capacity 1 := capacity_replies (.empty capacity) cs
  have hround : replies Indexed.reply q round = (q.order.map fun h => .ask (some h), q) := by
    rw [← hsound.replies_round, ← hsize]
  have hround' : replies Wanted.reply w round = (w.line.map fun h => .ask (some h), w) := by
    rw [hw, (hsound.replies round).2, hround]
    rfl
  refine ⟨congrArg Prod.fst hplain, hw, hsound.nodup, fun h => (hsound.members h).symm, ?_, hsize,
    ?_, hround, hround', fun h => ?_⟩
  · intro hnull
    exact hsound.proper Hash.null ((hsound.members _).mp hnull) (Hash.isNull_iff.mpr rfl)
  · rw [hsound.size_eq, ← hroom]
    exact hsound.bounded
  · have hinj : Function.Injective fun g : Hash => Reply.ask (some g) := fun a b hab =>
      Option.some.inj (Reply.ask.inj hab)
    rw [hround', hw, List.count_map_of_injective _ _ hinj]
    exact hsound.nodup.count.trans (if_congr (hsound.members h).symm rfl rfl)

end Indexed

end TernaryGossip.Wanted
