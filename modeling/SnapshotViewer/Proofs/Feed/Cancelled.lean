import SnapshotViewer.Proofs.Feed.Request
import SnapshotViewer.Proofs.Feed.Telling

/-!
# Cancelled subscriptions

A subscription that is stopped, or whose place is taken, is over.  It takes nothing more from its
stream, but what it has in hand is not taken away from it: when its turn comes it tells that, and
nothing after it.

## Main definitions

* `Over` — a subscription that was cancelled.
* `Unobstructed` — nothing is in the way of what subscriptions tell.

## Main statements

* `over_of_cancels` — a subscription that is cancelled keeps what it has in hand.
* `Over.apply`, `Over.inHand?_apply` — what is over stays so, and keeps what it has until its turn.
* `Over.toldBy_run`, `Over.toldBy_run_of_open` — what it tells: at most what it has in hand, and
  just that if nothing is in the way.
-/

namespace SnapshotViewer

namespace Effect
variable {n : Nat} {effects : List Effect}

theorem toldBy_of_quiet (h : Quiet effects) : toldBy n effects = [] := by
  refine List.filterMap_eq_nil_iff.2 fun x hx => ?_
  cases x with
  | send m e => exact absurd hx (h m e)
  | _ => rfl

end Effect

namespace LiveFeed
variable {f : LiveFeed} {n m : Nat} {s : Signal} {op : LiveOp}

/-! ## Who tells something -/

theorem run_append (f : LiveFeed) (xs ys : List LiveOp) :
    f.run (xs ++ ys) = (((f.run xs).1.run ys).1, (f.run xs).2 ++ ((f.run xs).1.run ys).2) := by
  induction xs generalizing f with
  | nil => rfl
  | cons x xs ih => simp only [List.cons_append, run, ih, List.append_assoc]

theorem toldBy_closing (n : Nat) (f g : LiveFeed) : Effect.toldBy n (f.closing g) = [] :=
  Effect.toldBy_of_quiet (quiet_closing f g)

theorem toldBy_say (f : LiveFeed) (n m : Nat) (e? : Option FeedEvent) :
    Effect.toldBy n (f.say m e?) = if m = n ∧ f.listening = true then e?.toList else [] := by
  unfold say
  cases f.listening <;> cases e? <;> by_cases hm : m = n <;> simp [Effect.told?, hm]

theorem Reaction.toldBy_turn {g : LiveFeed} {effects : List Effect}
    (h : Reaction f n .turn g effects) : Effect.toldBy n effects =
      if f.listening = true then ((f.inHand? n).bind fun x => (f.letThrough x).2).toList
      else [] := by
  cases h with
  | silent hhand _ _ hquiet => simp [hhand rfl, Effect.toldBy_of_quiet hquiet]
  | told hhand _ _ hquiet =>
    simp [hhand, Effect.toldBy_append, toldBy_say, Effect.toldBy_of_quiet hquiet]

theorem Reaction.toldBy_other {g : LiveFeed} {effects : List Effect}
    (h : Reaction f m s g effects) (hm : m ≠ n) : Effect.toldBy n effects = [] := by
  cases h with
  | silent _ _ _ hquiet => exact Effect.toldBy_of_quiet hquiet
  | told _ _ _ hquiet =>
    simp [Effect.toldBy_append, toldBy_say, hm, Effect.toldBy_of_quiet hquiet]

/-- What a subscription tells when its turn comes. -/
theorem toldBy_receive_turn (f : LiveFeed) (n : Nat) : Effect.toldBy n (f.receive n .turn).2 =
    if f.listening = true then ((f.inHand? n).bind fun x => (f.letThrough x).2).toList else [] :=
  (f.reaction n .turn).toldBy_turn

/-- Nobody else tells anything then. -/
theorem toldBy_receive_of_not_turn (f : LiveFeed) (h : (LiveOp.receive m s).isTurnOf n = false) :
    Effect.toldBy n (f.receive m s).2 = [] := by
  by_cases hs : s = .turn
  · have hm : m ≠ n := by simpa [LiveOp.isTurnOf, hs] using h
    exact (f.reaction m s).toldBy_other hm
  · exact Effect.toldBy_of_quiet ((f.reaction m s).quiet hs)

/-! ## What becomes of a subscription that is cancelled -/

/-- A subscription that was cancelled takes up nothing, -/
theorem receive_of_cancelled (h : m ≠ f.issued ∨ f.stage = none) (hs : s ≠ .turn) :
    (f.receive m s).1 = f := by
  have hreact : f.react m s = (f, []) := by
    cases s with
    | turn => exact absurd rfl hs
    | _ =>
      rcases h with h | h
      · cases hstage : f.stage <;> simp [react, hstage, h]
      · simp [react, h]
  exact (congrArg Prod.fst hreact :)

/-- but what it has in hand is told when its turn comes. -/
theorem receive_turn_of_cancelled (h : m ≠ f.issued ∨ f.stage = none) :
    (f.receive m .turn).1 = ((f.inHand? m).map fun news => (f.tellLate m news).1).getD f := by
  show (f.goOn m).1 = _
  rw [goOn]
  cases f.inHand? m with
  | none => rfl
  | some news =>
    have hlate : ¬(f.stage = some (.telling news) ∧ m = f.issued) := by
      rintro ⟨hstage, hm⟩
      rcases h with h | h
      · exact h hm
      · simp [hstage] at h
    dsimp only
    rw [if_neg hlate]
    rfl

theorem tellLate_eq (f : LiveFeed) (m : Nat) (news : News) : (f.tellLate m news).1 =
    { f with
      valve := (f.letThrough news).1.valve
      late := f.late.filter (·.1 ≠ m) } := by
  unfold tellLate
  dsimp only
  rw [letThrough_eq]

/-- A subscription was stopped, or another one has taken its place. -/
def Over (f : LiveFeed) (n : Nat) : Prop := n < f.issued ∨ (n = f.issued ∧ f.stage = none)

theorem Over.cancelled (h : Over f n) : n ≠ f.issued ∨ f.stage = none :=
  h.imp Nat.ne_of_lt And.right

theorem Over.le_issued (h : Over f n) : n ≤ f.issued :=
  h.elim Nat.le_of_lt fun h => Nat.le_of_eq h.1

theorem Over.inHand?_eq (h : Over f n) : f.inHand? n = f.late.lookup n := by
  rcases h.cancelled with hn | hstage
  · cases hstage : f.stage with
    | none => simp [inHand?, hstage]
    | some stage => cases stage <;> simp [inHand?, hstage, hn]
  · simp [inHand?, hstage]

/-- Nothing is lost when a subscription is cancelled. -/
theorem lookup_lateWith (f : LiveFeed) (n : Nat) : f.lateWith.lookup n = f.inHand? n := by
  cases hstage : f.stage with
  | none => simp [lateWith, inHand?, hstage]
  | some stage =>
    cases stage with
    | telling news =>
      by_cases hn : n = f.issued
      · simp [lateWith, inHand?, hstage, hn]
      · have hother : (n == f.issued) = false := by simpa using hn
        simp [lateWith, inHand?, hstage, hn, List.lookup_cons, hother]
    | _ => simp [lateWith, inHand?, hstage]

/-- A subscription is over when it is stopped or when another one is started.  It tells nothing then
and keeps in hand what it has. -/
theorem over_of_cancels (hn : n ≤ f.issued) (hop : op.cancels = true) :
    Over (f.apply op).1 n ∧ (f.apply op).1.inHand? n = f.inHand? n ∧
      Effect.toldBy n (f.apply op).2 = [] := by
  cases op with
  | start =>
    refine ⟨.inl (Nat.lt_succ_of_le hn), f.lookup_lateWith n, ?_⟩
    rw [apply, start, Effect.toldBy_append, toldBy_closing]
    rfl
  | stop =>
    refine ⟨?_, f.lookup_lateWith n, toldBy_closing n f _⟩
    rcases Nat.lt_or_eq_of_le hn with hlt | heq
    · exact .inl hlt
    · exact .inr ⟨heq, rfl⟩
  | _ => cases hop

/-! ## What it has in hand -/

theorem lookup_filter_ne (h : m ≠ n) (l : List (Nat × News)) :
    (l.filter (·.1 ≠ m)).lookup n = l.lookup n := by
  induction l with
  | nil => rfl
  | cons p l ih =>
    obtain ⟨k, news⟩ := p
    by_cases hk : k = m
    · have hn : (n == k) = false := by simpa [hk] using h.symm
      rw [List.filter_cons_of_neg (by simpa using hk), List.lookup_cons, hn, ih]
    · rw [List.filter_cons_of_pos (by simpa using hk), List.lookup_cons, List.lookup_cons, ih]

theorem lookup_filter_self (n : Nat) (l : List (Nat × News)) :
    (l.filter (·.1 ≠ n)).lookup n = none := by
  rw [List.lookup_eq_none_iff]
  intro p hp
  have hne : p.1 ≠ n := of_decide_eq_true (List.mem_filter.1 hp).2
  simpa using hne.symm

theorem late_tell (f : LiveFeed) (news : News) : (f.tell news).1.late = f.late := by
  have hthrough : (f.letThrough news).1.late = f.late := by rw [letThrough_eq]
  unfold tell
  dsimp only
  split
  · exact hthrough
  · split <;> exact hthrough

theorem late_receiveCurrent (f : LiveFeed) (stage : StreamStage) (s : Signal) :
    (f.receiveCurrent stage s).1.late = f.late := by
  unfold receiveCurrent
  split <;> rfl

/-- Only what has been told is taken away. -/
theorem late_receive (f : LiveFeed) (m : Nat) (s : Signal) :
    (f.receive m s).1.late = f.late ∨ (f.receive m s).1.late = f.late.filter (·.1 ≠ m) := by
  show (f.react m s).1.late = _ ∨ (f.react m s).1.late = _
  unfold react
  split
  · unfold goOn
    split
    · exact .inl rfl
    · split
      · exact .inl (f.late_tell _)
      · exact .inr (congrArg LiveFeed.late (f.tellLate_eq m _))
  · split
    · split
      · exact .inl (f.late_receiveCurrent _ s)
      · exact .inl rfl
    · exact .inl rfl

/-- A feed without a subscription stays one, whatever is reported. -/
theorem stage_receive (h : f.stage = none) (m : Nat) (s : Signal) :
    (f.receive m s).1.stage = none := by
  by_cases hs : s = .turn
  · rw [hs, receive_turn_of_cancelled (.inr h)]
    cases f.inHand? m with
    | none => exact h
    | some news =>
      rw [Option.map_some, Option.getD_some, tellLate_eq]
      exact h
  · rw [receive_of_cancelled (.inr h) hs]
    exact h

/-- What is over stays so. -/
theorem Over.apply (h : Over f n) (op : LiveOp) : Over (f.apply op).1 n := by
  cases op with
  | start => exact (over_of_cancels h.le_issued rfl).1
  | stop => exact (over_of_cancels h.le_issued rfl).1
  | receive m s =>
    have hissued : (f.apply (.receive m s)).1.issued = f.issued := (f.settled_receive m s).issued
    rw [Over, hissued]
    exact h.imp_right fun h => ⟨h.1, stage_receive h.2 m s⟩
  | _ => exact h

/-- What it has in hand it has until its turn comes, and then it has told that. -/
theorem Over.inHand?_apply (h : Over f n) (op : LiveOp) :
    (f.apply op).1.inHand? n = if op.isTurnOf n then none else f.inHand? n := by
  cases op with
  | start => exact (over_of_cancels h.le_issued rfl).2.1
  | stop => exact (over_of_cancels h.le_issued rfl).2.1
  | receive m s =>
    rw [(h.apply (.receive m s)).inHand?_eq, h.inHand?_eq]
    show (f.receive m s).1.late.lookup n = _
    by_cases hm : m = n
    · subst hm
      by_cases hs : s = .turn
      · rw [hs, receive_turn_of_cancelled h.cancelled, h.inHand?_eq]
        cases hlate : f.late.lookup m with
        | none => simpa [LiveOp.isTurnOf] using hlate
        | some news =>
          rw [Option.map_some, Option.getD_some, tellLate_eq, lookup_filter_self]
          simp [LiveOp.isTurnOf]
      · have hother : (LiveOp.receive m s).isTurnOf m = false := by
          cases s <;> simp_all [LiveOp.isTurnOf]
        rw [receive_of_cancelled h.cancelled hs, hother]
        rfl
    · have hother : (LiveOp.receive m s).isTurnOf n = false := by
        cases s <;> simp [LiveOp.isTurnOf, hm]
      rw [hother, if_neg Bool.false_ne_true]
      rcases f.late_receive m s with hlate | hlate
      · rw [hlate]
      · rw [hlate, lookup_filter_ne hm]
  | _ => rfl

/-! ## Nothing in the way -/

/-- Nothing is in the way of what subscriptions tell. -/
structure Unobstructed (f : LiveFeed) : Prop where
  listening : f.listening = true
  unpaused : f.valve.paused = false

theorem Unobstructed.apply (h : Unobstructed f) (hop : op.obstructs = false) :
    Unobstructed (f.apply op).1 := by
  cases op with
  | receive m s =>
    exact ⟨(f.settled_receive m s).listening.trans h.listening,
      (f.paused_receive m s).trans h.unpaused⟩
  | pass s => exact ⟨h.listening, (f.valve.paused_pass s).trans h.unpaused⟩
  | pause => cases hop
  | deafen => cases hop
  | resume => exact ⟨h.listening, rfl⟩
  | start => exact ⟨h.listening, h.unpaused⟩
  | stop => exact ⟨h.listening, h.unpaused⟩

theorem Unobstructed.run (h : Unobstructed f) {ops : List LiveOp}
    (hops : ∀ op ∈ ops, op.obstructs = false) : Unobstructed (f.run ops).1 := by
  induction ops generalizing f with
  | nil => exact h
  | cons op ops ih =>
    exact ih (h.apply (hops op List.mem_cons_self)) fun op hop =>
      hops op (List.mem_cons_of_mem _ hop)

/-! ## What it tells -/

/-- What is let through is what there is to tell, or nothing. -/
theorem letThrough_sublist (f : LiveFeed) (hand : Option News) :
    (hand.bind fun x => (f.letThrough x).2).toList.Sublist (hand.bind News.event?).toList := by
  cases hand with
  | none => exact List.Sublist.refl []
  | some news =>
    cases hp : f.valve.paused with
    | false => simp [letThrough_of_open f hp]
    | true =>
      cases h : news.snapshot? with
      | none => simp [letThrough_of_none f h]
      | some s => simp [letThrough_of_snapshot f h, f.valve.pass_of_paused s hp]

/-- It tells something only when its turn comes. -/
theorem Over.toldBy_apply (h : Over f n) (op : LiveOp) : Effect.toldBy n (f.apply op).2 =
    if op.isTurnOf n = true ∧ f.listening = true then
      ((f.inHand? n).bind fun x => (f.letThrough x).2).toList
    else [] := by
  cases op with
  | start => exact (over_of_cancels h.le_issued rfl).2.2
  | stop => exact (over_of_cancels h.le_issued rfl).2.2
  | receive m s =>
    show Effect.toldBy n (f.receive m s).2 = _
    cases hturn : (LiveOp.receive m s).isTurnOf n with
    | false => rw [f.toldBy_receive_of_not_turn hturn, if_neg (by simp)]
    | true =>
      obtain ⟨rfl, rfl⟩ := LiveOp.eq_of_isTurnOf hturn
      simp [toldBy_receive_turn]
  | _ => rfl

/-- At most what it has in hand is told of what is over, -/
theorem Over.toldBy_run (h : Over f n) (ops : List LiveOp) :
    (Effect.toldBy n (f.run ops).2).Sublist ((f.inHand? n).bind News.event?).toList := by
  induction ops generalizing f with
  | nil => exact List.nil_sublist _
  | cons op ops ih =>
    have hlater := ih (h.apply op)
    rw [h.inHand?_apply op] at hlater
    rw [LiveFeed.run, Effect.toldBy_append, h.toldBy_apply op]
    cases hturn : op.isTurnOf n with
    | false => simpa [hturn] using hlater
    | true =>
      have hnothing : Effect.toldBy n ((f.apply op).1.run ops).2 = [] := by
        simpa [hturn] using hlater
      rw [hnothing, List.append_nil]
      split
      · exact f.letThrough_sublist _
      · exact List.nil_sublist _

/-- and exactly that when its turn comes and nothing is in the way. -/
theorem Over.toldBy_run_of_open (h : Over f n) (hopen : Unobstructed f) {ops : List LiveOp}
    (hops : ∀ op ∈ ops, op.obstructs = false) : Effect.toldBy n (f.run ops).2 =
      if ops.any (·.isTurnOf n) then ((f.inHand? n).bind News.event?).toList else [] := by
  induction ops generalizing f with
  | nil => rfl
  | cons op ops ih =>
    have hlater := ih (h.apply op) (hopen.apply (hops op List.mem_cons_self))
      fun op hop => hops op (List.mem_cons_of_mem _ hop)
    rw [h.inHand?_apply op] at hlater
    rw [LiveFeed.run, Effect.toldBy_append, h.toldBy_apply op, hlater, List.any_cons]
    cases hturn : op.isTurnOf n with
    | false => simp
    | true => simp [hopen.listening, letThrough_of_open f hopen.unpaused]

/-! ## Numbers -/

/-- Numbers are not given twice. -/
theorem issued_le_apply (f : LiveFeed) (op : LiveOp) : f.issued ≤ (f.apply op).1.issued := by
  cases op with
  | start => exact Nat.le_succ f.issued
  | receive m s => exact Nat.le_of_eq (f.settled_receive m s).issued.symm
  | _ => exact Nat.le_refl _

theorem issued_le_run (f : LiveFeed) (ops : List LiveOp) : f.issued ≤ (f.run ops).1.issued := by
  induction ops generalizing f with
  | nil => exact Nat.le_refl _
  | cons op ops ih => exact Nat.le_trans (f.issued_le_apply op) (ih _)

end LiveFeed

end SnapshotViewer
