import TernaryGossip.Proofs.Gossip.RoundRobin

/-! # Who leaves a full line

    The front of a line of wanted hashes is asked for next, and it is also
    the one that leaves when there is no room for another.  A request puts a
    hash at the end of the line, but so does asking for it.  So the line is in
    the order in which its hashes were last touched, by a request or by being
    asked for, and the one that leaves was left alone for the longest time.

    This is the oldest request as long as it was not asked for.  After that
    it may stay, while a newer one that waits for its turn leaves. -/

namespace TernaryGossip.Wanted

/-! ## What was called -/

/-- A call with its reply. -/
abbrev Exchange := Call × Reply

/-- The line after calls, when it was empty at first. -/
def after (capacity : Nat) (cs : List Call) : Wanted :=
  (replies Wanted.reply (.empty capacity) cs).2

/-- The calls on a line that was empty at first, with their replies. -/
def exchanges (capacity : Nat) (cs : List Call) : List Exchange :=
  cs.zip (replies Wanted.reply (.empty capacity) cs).1

/-- The hash that is requested with success or asked for. -/
def Exchange.touches : Exchange → Option Hash
  | (.request h, .done true) => some h
  | (.next, .ask asked) => asked
  | _ => none

/-- The number of exchanges up to the last one of a kind; zero if there is
    none. -/
def lastTime (kind : Exchange → Bool) (es : List Exchange) : Nat :=
  (es.reverse.dropWhile fun e => !kind e).length

/-- When a hash was last requested with success. -/
def requested (es : List Exchange) (h : Hash) : Nat :=
  lastTime (fun e => e = (.request h, .done true)) es

/-- When a hash was last requested with success or asked for. -/
def touched (es : List Exchange) (h : Hash) : Nat := lastTime (fun e => e.touches = some h) es

/-! ## One exchange more -/

section replies
variable {State : Type} (reply : State → Call → Reply × State)

theorem length_replies (now : State) (cs : List Call) :
    (replies reply now cs).1.length = cs.length := by
  induction cs generalizing now with
  | nil => rfl
  | cons c cs ih => exact congrArg Nat.succ (ih _)

theorem replies_concat (now : State) (cs : List Call) (c : Call) :
    replies reply now (cs ++ [c]) =
      ((replies reply now cs).1 ++ [(reply (replies reply now cs).2 c).1],
        (reply (replies reply now cs).2 c).2) := by
  induction cs generalizing now with
  | nil => rfl
  | cons d cs ih => simp only [List.cons_append, replies, ih]

end replies

theorem after_concat (capacity : Nat) (cs : List Call) (c : Call) :
    after capacity (cs ++ [c]) = ((after capacity cs).reply c).2 := by
  rw [after, replies_concat]
  rfl

theorem exchanges_concat (capacity : Nat) (cs : List Call) (c : Call) :
    exchanges capacity (cs ++ [c]) =
      exchanges capacity cs ++ [(c, ((after capacity cs).reply c).1)] := by
  rw [exchanges, replies_concat, List.zip_append (length_replies _ _ _).symm]
  rfl

theorem lastTime_concat (kind : Exchange → Bool) (es : List Exchange) (e : Exchange) :
    lastTime kind (es ++ [e]) = if kind e then es.length + 1 else lastTime kind es := by
  rw [lastTime, List.reverse_concat, List.dropWhile_cons]
  cases kind e <;> simp [lastTime]

theorem lastTime_le (kind : Exchange → Bool) (es : List Exchange) : lastTime kind es ≤ es.length := by
  have hle := (List.dropWhile_sublist (fun e => !kind e) (l := es.reverse)).length_le
  rwa [List.length_reverse] at hle

theorem touched_concat (es : List Exchange) (e : Exchange) (h : Hash) :
    touched (es ++ [e]) h = if e.touches = some h then es.length + 1 else touched es h := by
  rw [touched, lastTime_concat, touched]
  simp only [decide_eq_true_eq]

theorem requested_concat (es : List Exchange) (e : Exchange) (h : Hash) :
    requested (es ++ [e]) h =
      if e = (.request h, .done true) then es.length + 1 else requested es h := by
  rw [requested, lastTime_concat, requested]
  simp only [decide_eq_true_eq]

theorem touched_concat_of_ne (es : List Exchange) {e : Exchange} {g : Hash}
    (he : e.touches ≠ some g) : touched (es ++ [e]) g = touched es g := by
  rw [touched_concat, if_neg he]

theorem requested_le_requested_concat (es : List Exchange) (e : Exchange) (h : Hash) :
    requested es h ≤ requested (es ++ [e]) h := by
  rw [requested_concat]
  split
  · exact (lastTime_le _ _).trans (Nat.le_succ _)
  · exact Nat.le_refl _

/-- A request touches its hash. -/
theorem requested_le_touched (es : List Exchange) (h : Hash) : requested es h ≤ touched es h := by
  induction es using List.reverseRecOn with
  | nil => exact Nat.le_refl _
  | append_singleton es e ih =>
    rw [requested_concat, touched_concat]
    split
    · next he =>
      have htouches : e.touches = some h := by rw [he, Exchange.touches]
      rw [if_pos htouches]
    · split
      · exact (lastTime_le _ _).trans (Nat.le_succ _)
      · exact ih

/-! ## The line is in the order of touches -/

/-- The hashes of a list were all requested, and they were last touched in
    this order. -/
structure InTurn (es : List Exchange) (line : List Hash) : Prop where
  ascending : line.Pairwise fun a b => touched es a < touched es b
  accepted : ∀ h ∈ line, 0 < requested es h

namespace InTurn

variable {es : List Exchange} {line : List Hash} (hturn : InTurn es line)
include hturn

theorem sublist {part : List Hash} (hpart : part.Sublist line) : InTurn es part :=
  ⟨hturn.ascending.sublist hpart, fun h hh => hturn.accepted h (hpart.subset hh)⟩

/-- What touches none of them leaves their order. -/
theorem concat {e : Exchange} (he : ∀ h ∈ line, e.touches ≠ some h) : InTurn (es ++ [e]) line where
  ascending := by
    refine hturn.ascending.imp_of_mem ?_
    intro a b ha hb hlt
    rwa [touched_concat_of_ne es (he a ha), touched_concat_of_ne es (he b hb)]
  accepted h hh := (hturn.accepted h hh).trans_le (requested_le_requested_concat es e h)

/-- A hash that is touched stands at the end. -/
theorem push {e : Exchange} {h : Hash} (he : e.touches = some h) (hnew : h ∉ line)
    (haccepted : 0 < requested (es ++ [e]) h) : InTurn (es ++ [e]) (line ++ [h]) := by
  have hothers : ∀ g ∈ line, e.touches ≠ some g := by
    intro g hg heq
    obtain rfl : h = g := Option.some.inj (he.symm.trans heq)
    exact hnew hg
  obtain ⟨hascending, hold⟩ := hturn.concat hothers
  constructor
  · refine List.pairwise_append.mpr ⟨hascending, List.pairwise_singleton _ _, ?_⟩
    intro g hg _ hlast
    rw [List.mem_singleton.mp hlast, touched_concat_of_ne es (hothers g hg), touched_concat,
      if_pos he]
    exact Nat.lt_succ_of_le (lastTime_le _ _)
  · intro g hg
    rcases List.mem_append.mp hg with hg | hg
    · exact hold g hg
    · rwa [List.mem_singleton.mp hg]

end InTurn

/-- Every call keeps the line in the order in which its hashes were touched. -/
theorem InTurn.reply {es : List Exchange} {w : Wanted} (hturn : InTurn es w.line) (c : Call) :
    InTurn (es ++ [(c, (w.reply c).1)]) (w.reply c).2.line := by
  cases c with
  | request h =>
    simp only [Wanted.reply, request]
    split
    · exact hturn.concat fun _ _ heq => Option.some_ne_none _ heq.symm
    · next hnew =>
      have habsent : h ∉ w.line := fun hh => hnew (.inr (List.contains_iff_mem.mpr hh))
      have hpushed : InTurn (es ++ [(.request h, .done true)]) (w.line ++ [h]) := by
        refine hturn.push rfl habsent ?_
        rw [requested_concat, if_pos rfl]
        exact Nat.succ_pos _
      -- the front leaves if the line is now too long
      simp only
      split
      · exact hpushed.sublist (List.tail_sublist _)
      · exact hpushed
  | clear h =>
    have hkept := hturn.sublist (List.filter_sublist (p := fun g => decide (g ≠ h)))
    exact hkept.concat fun _ _ heq => Option.some_ne_none _ heq.symm
  | next =>
    simp only [Wanted.reply, next]
    split
    · next hnone =>
      rw [hnone]
      exact ⟨.nil, fun _ hh => absurd hh List.not_mem_nil⟩
    · next h rest hline =>
      rw [hline] at hturn
      have hbehind : h ∉ rest := fun hh =>
        Nat.lt_irrefl _ (List.rel_of_pairwise_cons hturn.ascending hh)
      refine (hturn.sublist (List.sublist_cons_self h rest)).push rfl hbehind ?_
      exact (hturn.accepted h List.mem_cons_self).trans_le (requested_le_requested_concat _ _ _)

theorem inTurn_after (capacity : Nat) (cs : List Call) :
    InTurn (exchanges capacity cs) (after capacity cs).line := by
  induction cs using List.reverseRecOn with
  | nil => exact ⟨.nil, fun _ hh => absurd hh List.not_mem_nil⟩
  | append_singleton cs c ih =>
    rw [exchanges_concat, after_concat]
    exact ih.reply c

theorem capacity_after (capacity : Nat) (cs : List Call) :
    (after capacity cs).capacity = max capacity 1 := by
  have hplain := congrArg Prod.snd ((Indexed.sound_empty capacity).replies cs).2
  have hsame : after capacity cs = (replies Indexed.reply (.empty capacity) cs).2.plain := hplain
  rw [hsame]
  exact Indexed.capacity_replies (.empty capacity) cs

/-! ## Who leaves -/

/-- No hash of the line was requested before this one. -/
def Oldest (es : List Exchange) (line : List Hash) (o : Hash) : Prop :=
  o ∈ line ∧ ∀ g ∈ line, requested es o ≤ requested es g

instance (es : List Exchange) (line : List Hash) (o : Hash) : Decidable (Oldest es line o) :=
  inferInstanceAs (Decidable (_ ∧ _))

/-- Requesting a new hash on a full line pushes out the front. -/
theorem request_of_full {w : Wanted} {h g : Hash} {rest : List Hash} (hnull : ¬ h.isNull = true)
    (hnew : h ∉ w.line) (hline : w.line = g :: rest) (hfull : w.capacity ≤ w.line.length) :
    w.request h = (true, { w with line := rest ++ [h] }) := by
  have hcontains : ¬ w.contains h = true := fun hh => hnew (List.contains_iff_mem.mp hh)
  have hlong : (w.line ++ [h]).length > w.capacity := by
    rw [List.length_append, List.length_singleton]
    omega
  have htail : (w.line ++ [h]).tail = rest ++ [h] := by rw [hline, List.cons_append, List.tail_cons]
  rw [request, if_neg (not_or.mpr ⟨hnull, hcontains⟩)]
  simp only [if_pos hlong, htail]

/-- When a hash is requested that is neither null nor in the line, and the
    line is full, exactly one hash leaves: the one that was neither requested
    nor asked for, for the longest time.  The oldest request is the one that
    leaves if and only if every other hash of the line was touched after it
    was; so it leaves if it was not asked for since it was requested. -/
theorem longest_untouched_leaves (capacity : Nat) (cs : List Call) {h : Hash}
    (hnull : ¬ h.isNull = true) (hnew : h ∉ (after capacity cs).line)
    (hfull : (after capacity cs).size = max capacity 1) :
    let w := after capacity cs
    let es := exchanges capacity cs
    (∀ o ∈ w.line, 0 < requested es o) ∧
    ∃ g ∈ w.line,
      w.request h = (true, { w with line := w.line.erase g ++ [h] }) ∧
      (∀ o ∈ w.line, o ≠ g → touched es g < touched es o) ∧
      ∀ o, Oldest es w.line o →
        (o = g ↔ ∀ f ∈ w.line, f ≠ o → touched es o < touched es f) ∧
        (touched es o = requested es o → o = g) := by
  intro w es
  obtain ⟨hascending, haccepted⟩ : InTurn es w.line := inTurn_after capacity cs
  have hlength : w.line.length = w.capacity := hfull.trans (capacity_after capacity cs).symm
  have hpos : 0 < w.line.length := by
    have hsize : w.line.length = max capacity 1 := hfull
    omega
  obtain ⟨g, rest, hline⟩ := List.exists_cons_of_length_pos hpos
  have hfront : ∀ o ∈ w.line, o ≠ g → touched es g < touched es o := by
    intro o ho hne
    rw [hline] at hascending ho
    exact List.rel_of_pairwise_cons hascending ((List.mem_cons.mp ho).resolve_left hne)
  have hin : g ∈ w.line := by
    rw [hline]
    exact List.mem_cons_self
  refine ⟨haccepted, g, hin, ?_, hfront, ?_⟩
  · have herase : w.line.erase g = rest := by rw [hline, List.erase_cons_head]
    rw [herase]
    exact request_of_full hnull hnew hline (Nat.le_of_eq hlength.symm)
  · rintro o ⟨ho, holdest⟩
    refine ⟨⟨?_, ?_⟩, ?_⟩
    · rintro rfl
      exact hfront
    · intro hlast
      by_contra hne
      exact Nat.lt_asymm (hlast g hin fun heq => hne heq.symm) (hfront o ho hne)
    · -- the front was requested no earlier, so it was touched no earlier
      intro hsince
      by_contra hne
      have hlt := hfront o ho hne
      have hle := (holdest g hin).trans (requested_le_touched es g)
      omega

/-- In a line for two, the older of two requests is asked for. -/
def olderAsked : List Call :=
  [.request (Hash.ofTrits [1]), .request (Hash.ofTrits [-1]), .next]

/-- The newer one leaves when a third is requested. -/
theorem longest_untouched_leaves_newer :
    let w := after 2 olderAsked
    let third := Hash.ofTrits [0, 1]
    ¬ third.isNull = true ∧ third ∉ w.line ∧ w.size = max 2 1 ∧
      w.line = [Hash.ofTrits [-1], Hash.ofTrits [1]] ∧
      (w.request third).2.line = [Hash.ofTrits [1], third] := by
  intro w third
  have hline : w.line = [Hash.ofTrits [-1], Hash.ofTrits [1]] := by decide
  have hnull : ¬ third.isNull = true := by decide
  have hnew : third ∉ w.line := by decide
  have hfull : w.size = max 2 1 := by decide
  obtain ⟨-, g, hg, hrequest, hfirst, -⟩ := longest_untouched_leaves 2 olderAsked hnull hnew hfull
  refine ⟨hnull, hnew, hfull, hline, ?_⟩
  -- the other one was asked for last
  have hasked : touched (exchanges 2 olderAsked) (Hash.ofTrits [1]) = 3 := by decide
  have hwaits : touched (exchanges 2 olderAsked) (Hash.ofTrits [-1]) = 2 := by decide
  have hnewer : g = Hash.ofTrits [-1] := by
    by_contra hne
    have hlt := hfirst (Hash.ofTrits [-1]) (by decide) fun heq => hne heq.symm
    have hg' : g ∈ w.line := hg
    rw [hline] at hg'
    rcases List.mem_cons.mp hg' with heq | hg'
    · exact hne heq
    · rw [List.mem_singleton.mp hg', hasked, hwaits] at hlt
      exact absurd hlt (by decide)
  have hafter := congrArg (fun r => r.2.line) hrequest
  rw [hnewer] at hafter
  exact hafter.trans (by decide)

/-- What leaves a line when another hash is requested is its oldest request. -/
def DropsOldest (capacity : Nat) (cs : List Call) (h : Hash) : Prop :=
  let w := after capacity cs
  ∀ g ∈ w.line, g ∉ (w.request h).2.line → Oldest (exchanges capacity cs) w.line g

instance (capacity : Nat) (cs : List Call) (h : Hash) : Decidable (DropsOldest capacity cs h) :=
  inferInstanceAs (Decidable (∀ g ∈ _, _))

/-- It is not, once the oldest request was asked for. -/
theorem not_dropsOldest_olderAsked : ¬ ∀ capacity cs h, DropsOldest capacity cs h :=
  fun hall => absurd (hall 2 olderAsked (Hash.ofTrits [0, 1])) (by decide)

end TernaryGossip.Wanted
