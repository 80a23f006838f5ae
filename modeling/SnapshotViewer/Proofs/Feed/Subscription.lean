import SnapshotViewer.Proofs.Feed.Cancelled

/-!
# What one subscription tells

A subscription hears of one attempt after the other: of snapshots and other events, of errors,
of the end of a stream and of the end of a rest.  At each moment its stage fits what it will hear
next (`Follows`), so it takes up every report and tells the listener what the report is worth.

When it is cancelled it may have taken something already.  That is told later, and nothing else.

## Main definitions

* `Follows` — a subscription that keeps up with its script.
* `Relays` — what a subscription tells along a run.

## Main statements

* `Follows.receive`, `Follows.run` — a subscription that keeps up goes on doing so.
* `relays` — a new subscription tells what its attempts bring, until it is over.
* `told_after_cancel` — a snapshot that is told behind the end.
-/

namespace SnapshotViewer

/-- What a subscription has in hand at a stage. -/
def StreamStage.hand? : StreamStage → Option News
  | .telling news => some news
  | _ => none

namespace LiveFeed
variable {f : LiveFeed} {n m : Nat} {s : Signal} {rest : List Signal} {op : LiveOp}
  {stage : StreamStage} {news : News} {x : Frame} {e : ProviderError}

/-! ## A subscription that keeps up -/

/-- What a subscription waits for at each stage, if it is to hear the rest of a script. -/
inductive Awaits : StreamStage → List Signal → Prop
  | connecting (attempts : List Attempt) :
    Awaits .connecting (Attempt.script attempts)
  | reading (frames : List Frame) (error : Option ProviderError) (attempts : List Attempt) :
    Awaits .reading
      (Attempt.framed frames ++ .closed error :: .turn :: .due :: Attempt.script attempts)
  | framed (x : Frame) (frames : List Frame) (error : Option ProviderError)
    (attempts : List Attempt) :
    Awaits (.telling (.frame x))
      (.turn ::
        (Attempt.framed frames ++ .closed error :: .turn :: .due :: Attempt.script attempts))
  | failed (e : ProviderError) (attempts : List Attempt) :
    Awaits (.telling (.failure e)) (.turn :: .due :: Attempt.script attempts)
  | resting (attempts : List Attempt) :
    Awaits .resting (.due :: Attempt.script attempts)

/-- The newest subscription has this number, nothing is in the way of what it tells, and at its
stage it waits for the rest of a script. -/
structure Follows (f : LiveFeed) (n : Nat) (stage : StreamStage) (rest : List Signal) : Prop where
  issued : f.issued = n
  listening : f.listening = true
  unpaused : f.valve.paused = false
  reached : f.stage = some stage
  awaits : Awaits stage rest

/-- What a report about the newest subscription leads to. -/
theorem receive_of_stage (hstage : f.stage = some stage) (hm : f.issued = m) (hs : s ≠ .turn) :
    (f.receive m s).1 = (f.receiveCurrent stage s).1 ∧
      ∀ n, Effect.toldBy n (f.receive m s).2 = [] := by
  have hreact : f.react m s = f.receiveCurrent stage s := by
    cases s with
    | turn => exact absurd rfl hs
    | _ => simp [react, hstage, hm]
  exact ⟨(congrArg Prod.fst hreact :),
    fun n => Effect.toldBy_of_quiet ((f.reaction m s).quiet hs)⟩

theorem inHand?_of_telling (hstage : f.stage = some (.telling news)) (hm : f.issued = m) :
    f.inHand? m = some news := by
  simp [inHand?, hstage, hm]

/-- When it is the turn of the newest subscription it tells what it has in hand. -/
theorem receive_turn_of_stage (hstage : f.stage = some (.telling news)) (hm : f.issued = m) :
    (f.receive m .turn).1 = (f.tell news).1 := by
  show (f.goOn m).1 = _
  simp [goOn, inHand?_of_telling hstage hm, hstage, hm]

/-- A subscription that finds a listener goes on. -/
theorem tell_frame_of_open (hopen : f.valve.paused = false) (hlistening : f.listening = true) :
    (f.tell (.frame x)).1 = { f with stage := some .reading } := by
  simp [tell, letThrough_of_open f hopen, hlistening]

theorem tell_failure_of_open (hopen : f.valve.paused = false) (hlistening : f.listening = true) :
    (f.tell (.failure e)).1 = { f with stage := some .resting } := by
  simp [tell, letThrough_of_open f hopen, hlistening]

/-- A subscription takes up the report that it waits for, and tells what it has in hand when its
turn has come. -/
theorem Follows.receive (h : Follows f n stage (s :: rest)) :
    ∃ stage', Follows (f.receive n s).1 n stage' rest ∧ ∀ later,
      Effect.toldBy n (f.receive n s).2 ++ tellings stage'.hand? later =
        tellings stage.hand? (s :: later) := by
  obtain ⟨hissued, hlistening, hunpaused, hstage, hawaits⟩ := h
  have hcurrent := fun hs => receive_of_stage hstage hissued (s := s) hs
  have hgoes : ∀ {stage'}, Awaits stage' rest →
      Follows { f with stage := some stage' } n stage' rest :=
    fun hawaits => ⟨hissued, hlistening, hunpaused, rfl, hawaits⟩
  have hsaid : ∀ news, stage = .telling news →
      Effect.toldBy n (f.receive n .turn).2 = news.event?.toList := by
    rintro news rfl
    simp [toldBy_receive_turn, hlistening, inHand?_of_telling hstage hissued,
      letThrough_of_open f hunpaused]
  -- the stage settles which report comes next
  generalize hl : s :: rest = l at hawaits
  cases hawaits with
  | connecting attempts =>
    cases attempts with
    | nil => cases hl
    | cons a attempts =>
      cases a with
      | error e =>
        cases hl
        obtain ⟨hfeed, htold⟩ := hcurrent (by simp)
        rw [hfeed, htold]
        exact ⟨_, hgoes (.failed e attempts), fun _ => rfl⟩
      | ok b =>
        have hscript : Attempt.script (.ok b :: attempts) = .connected (.ok ()) ::
            (Attempt.framed b.frames ++ .closed b.error :: .turn :: .due ::
              Attempt.script attempts) := by
          simp [Attempt.script, Attempt.signals]
        rw [hscript] at hl
        cases hl
        obtain ⟨hfeed, htold⟩ := hcurrent (by simp)
        rw [hfeed, htold]
        exact ⟨_, hgoes (.reading _ _ attempts), fun _ => rfl⟩
  | reading frames error attempts =>
    cases frames with
    | nil =>
      cases hl
      obtain ⟨hfeed, htold⟩ := hcurrent (by simp)
      rw [hfeed, htold]
      exact ⟨_, hgoes (.failed _ attempts), fun _ => rfl⟩
    | cons x frames =>
      cases hl
      obtain ⟨hfeed, htold⟩ := hcurrent (by simp)
      rw [hfeed, htold]
      exact ⟨_, hgoes (.framed x frames error attempts), fun _ => rfl⟩
  | framed x frames error attempts =>
    cases hl
    rw [receive_turn_of_stage hstage hissued, tell_frame_of_open hunpaused hlistening,
      hsaid _ rfl]
    exact ⟨_, hgoes (.reading frames error attempts), fun _ => rfl⟩
  | failed e attempts =>
    cases hl
    rw [receive_turn_of_stage hstage hissued, tell_failure_of_open hunpaused hlistening,
      hsaid _ rfl]
    exact ⟨_, hgoes (.resting attempts), fun _ => rfl⟩
  | resting attempts =>
    cases hl
    obtain ⟨hfeed, htold⟩ := hcurrent (by simp)
    rw [hfeed, htold]
    exact ⟨_, hgoes (.connecting attempts), fun _ => rfl⟩

/-- What is reported about another subscription does not concern it. -/
theorem Follows.receive_other (h : Follows f n stage rest) (hm : m ≠ n) (s : Signal) :
    Follows (f.receive m s).1 n stage rest := by
  have hcancelled : m ≠ f.issued ∨ f.stage = none := .inl (h.issued ▸ hm)
  by_cases hs : s = .turn
  · rw [hs, receive_turn_of_cancelled hcancelled]
    cases f.inHand? m with
    | none => exact h
    | some news =>
      rw [Option.map_some, Option.getD_some, tellLate_eq]
      exact ⟨h.issued, h.listening, (f.paused_letThrough news).trans h.unpaused, h.reached,
        h.awaits⟩
  · rw [receive_of_cancelled hcancelled hs]
    exact h

/-- As long as nothing stands in the way, a subscription tells what its reports are worth. -/
theorem Follows.run {ops : List LiveOp} (h : Follows f n stage rest)
    (hops : ∀ op ∈ ops, op.harmless = true) (hreports : LiveOp.reports n ops <+: rest) :
    Effect.toldBy n (f.run ops).2 = tellings stage.hand? (LiveOp.reports n ops) := by
  induction ops generalizing f stage rest with
  | nil => cases stage.hand? <;> rfl
  | cons op ops ih =>
    have hlater : ∀ op ∈ ops, op.harmless = true := fun op hop =>
      hops op (List.mem_cons_of_mem _ hop)
    rw [LiveFeed.run, Effect.toldBy_append]
    cases op with
    | resume =>
      exact ih (f := f.resume) ⟨h.issued, h.listening, rfl, h.reached, h.awaits⟩ hlater hreports
    | pass x =>
      have hpass : (f.pass x).1 = f := by simp [LiveFeed.pass, f.valve.pass_of_open x h.unpaused]
      rw [apply, hpass]
      exact ih h hlater hreports
    | receive m s =>
      by_cases hm : m = n
      · subst hm
        have hcons : LiveOp.reports m (.receive m s :: ops) = s :: LiveOp.reports m ops := by
          simp [LiveOp.reports, LiveOp.report?]
        rw [hcons] at hreports ⊢
        obtain ⟨later, rfl⟩ := hreports
        have hnext : Follows f m stage (s :: (LiveOp.reports m ops ++ later)) := h
        obtain ⟨stage', hfollows, htold⟩ := hnext.receive
        rw [apply, ih hfollows hlater (List.prefix_append _ _)]
        exact htold _
      · have hskip : LiveOp.reports n (.receive m s :: ops) = LiveOp.reports n ops := by
          simp [LiveOp.reports, LiveOp.report?, hm]
        have hother : (LiveOp.receive m s).isTurnOf n = false := by
          cases s <;> simp [LiveOp.isTurnOf, hm]
        rw [hskip] at hreports ⊢
        rw [apply, f.toldBy_receive_of_not_turn hother]
        exact ih (h.receive_other hm s) hlater hreports
    | _ => exact absurd (hops _ List.mem_cons_self) (by decide)

/-! ## A new subscription -/

/-- What a subscription tells that a feed is about to start, when so many attempts are made for
it; `ops` is what has happened since. -/
structure Relays (f : LiveFeed) (attempts : List Attempt) (ops : List LiveOp) : Prop where
  /-- At each moment the listener has been told what the reports so far are worth. -/
  now : Effect.toldBy (f.issued + 1) (f.run (.start :: ops)).2 =
    tellings none (LiveOp.reports (f.issued + 1) ops)
  /-- This is a part of what the attempts bring, from their beginning on. -/
  part : Effect.toldBy (f.issued + 1) (f.run (.start :: ops)).2 <+:
    attempts.flatMap Attempt.events
  /-- It is the whole when everything is reported, with or without the last rest. -/
  whole : LiveOp.reports (f.issued + 1) ops = Attempt.script attempts ∨
      LiveOp.reports (f.issued + 1) ops ++ [.due] = Attempt.script attempts →
    Effect.toldBy (f.issued + 1) (f.run (.start :: ops)).2 = attempts.flatMap Attempt.events
  /-- Once the subscription is stopped or replaced, whatever has happened before and whatever
  happens later, it tells at most what it has in hand then. -/
  ended : ∀ before op after, op.cancels = true → ∃ last,
    Effect.toldBy (f.issued + 1) (f.run (.start :: (before ++ op :: after))).2 =
        Effect.toldBy (f.issued + 1) (f.run (.start :: before)).2 ++ last ∧
      last.Sublist
        (((f.run (.start :: before)).1.inHand? (f.issued + 1)).bind News.event?).toList
  /-- As long as the valve is open and somebody listens, it tells just that when its turn comes, and
  nothing if that never happens. -/
  late : ∀ before op after, op.cancels = true → (∀ x ∈ before ++ after, x.obstructs = false) →
    Effect.toldBy (f.issued + 1) (f.run (.start :: (before ++ op :: after))).2 =
      Effect.toldBy (f.issued + 1) (f.run (.start :: before)).2 ++
        if after.any (·.isTurnOf (f.issued + 1)) then
          (((f.run (.start :: before)).1.inHand? (f.issued + 1)).bind News.event?).toList
        else []

/-- A feed starts to keep up with any script. -/
theorem follows_start (h : Unobstructed f) (attempts : List Attempt) :
    Follows f.start.1 (f.issued + 1) .connecting (Attempt.script attempts) :=
  ⟨rfl, h.listening, h.unpaused, rfl, .connecting attempts⟩

theorem toldBy_run_start (f : LiveFeed) (n : Nat) (ops : List LiveOp) :
    Effect.toldBy n (f.run (.start :: ops)).2 = Effect.toldBy n (f.start.1.run ops).2 := by
  rw [run, apply, start, Effect.toldBy_append, Effect.toldBy_append, toldBy_closing]
  rfl

/-- What is told after a subscription is stopped or replaced comes from the feed behind that. -/
theorem toldBy_of_cancels (f : LiveFeed) (before after : List LiveOp) (hop : op.cancels = true) :
    let g := (f.run (.start :: before)).1
    Over (g.apply op).1 (f.issued + 1) ∧
      (g.apply op).1.inHand? (f.issued + 1) = g.inHand? (f.issued + 1) ∧
        Effect.toldBy (f.issued + 1) (f.run (.start :: (before ++ op :: after))).2 =
          Effect.toldBy (f.issued + 1) (f.run (.start :: before)).2 ++
            Effect.toldBy (f.issued + 1) ((g.apply op).1.run after).2 := by
  intro g
  have hn : f.issued + 1 ≤ g.issued := f.start.1.issued_le_run before
  obtain ⟨hover, hhand, hsilent⟩ := over_of_cancels hn hop
  have hafter : Effect.toldBy (f.issued + 1) (g.run (op :: after)).2 =
      Effect.toldBy (f.issued + 1) ((g.apply op).1.run after).2 := by
    rw [run, Effect.toldBy_append, hsilent]
    rfl
  exact ⟨hover, hhand, by rw [← List.cons_append, run_append, Effect.toldBy_append, hafter]⟩

/-- While the valve is open and somebody listens, a new subscription tells of each attempt in
turn: of every snapshot that its bytes hold, however they are cut, and then of one error.  When it
is cancelled it tells at most one thing more, which it has taken already. -/
theorem relays {attempts : List Attempt} {ops : List LiveOp} (hlistening : f.listening = true)
    (hunpaused : f.valve.paused = false) (hops : ∀ op ∈ ops, op.harmless = true)
    (hreports : LiveOp.reports (f.issued + 1) ops <+: Attempt.script attempts) :
    Relays f attempts ops := by
  have hopen : Unobstructed f := ⟨hlistening, hunpaused⟩
  have htold : Effect.toldBy (f.issued + 1) (f.run (.start :: ops)).2 =
      tellings none (LiveOp.reports (f.issued + 1) ops) := by
    rw [toldBy_run_start]
    exact (follows_start hopen attempts).run hops hreports
  exact
    { now := htold
      part := by
        obtain ⟨later, hlater⟩ := hreports
        rw [htold, ← Attempt.tellings_script, ← hlater]
        exact tellings_prefix none _ later
      whole := by
        rw [htold, ← Attempt.tellings_script]
        rintro (h | h)
        · rw [h]
        · rw [← h, tellings_concat_due]
      ended := by
        intro before op after hop
        obtain ⟨hover, hhand, htold⟩ := f.toldBy_of_cancels before after hop
        exact ⟨_, htold, hhand ▸ hover.toldBy_run after⟩
      late := by
        intro before op after hop hclear
        obtain ⟨hover, hhand, htold⟩ := f.toldBy_of_cancels before after hop
        obtain ⟨hbefore, hafter⟩ := List.forall_mem_append.1 hclear
        have hstart : ∀ x ∈ LiveOp.start :: before, x.obstructs = false :=
          List.forall_mem_cons.2 ⟨rfl, hbefore⟩
        have hclear : op.obstructs = false := by cases op <;> first | rfl | cases hop
        rw [htold, hover.toldBy_run_of_open ((hopen.run hstart).apply hclear) hafter, hhand] }

/-- A stream that ends within an event, one that breaks after an empty line, and a refusal.  The
unfinished event is not sent off by that line. -/
theorem relays_of_three_attempts :
    let attempts : List Attempt :=
      [.ok { chunks := ["event: snapshot\nda".toUTF8.toList, [],
          "ta: \x7b\"timestamp\":7\x7d\n\nevent: snapshot\n".toUTF8.toList,
          "data: \x7b\"timestamp\":8\x7d\n".toUTF8.toList] },
        .ok { chunks := ["\n".toUTF8.toList], error := some (.transport "reset") },
        .error .unauthorized]
    let ops : List LiveOp :=
      .resume :: .receive 0 .due :: (Attempt.script attempts).map (.receive 1)
    (LiveOp.reports 1 ops <+: Attempt.script attempts ∧ ∀ op ∈ ops, op.harmless = true) ∧
      Relays {} attempts ops ∧
      Effect.toldBy 1 (run {} (.start :: ops)).2 =
        [.snapshot { timestamp := 7 }, .transient streamClosed, .transient (.transport "reset"),
          .transient .unauthorized] := by
  intro attempts ops
  have hreports : LiveOp.reports 1 ops = Attempt.script attempts :=
    LiveOp.reports_receive 1 (Attempt.script attempts)
  have hharmless : ∀ op ∈ ops, op.harmless = true := by
    simp [ops, LiveOp.harmless]
  have hsofar : LiveOp.reports 1 ops <+: Attempt.script attempts :=
    ⟨[], by rw [List.append_nil, hreports]⟩
  have hrelays : Relays {} attempts ops := relays rfl rfl hharmless hsofar
  refine ⟨⟨hsofar, hharmless⟩, hrelays, ?_⟩
  have hevents : attempts.flatMap Attempt.events =
      [.snapshot { timestamp := 7 }, .transient streamClosed, .transient (.transport "reset"),
        .transient .unauthorized] := by
    decide +kernel
  rw [← hevents]
  exact hrelays.whole (.inl hreports)

/-- A subscription that has just taken a snapshot is stopped, or another one takes its place; then
its turn comes, and the snapshot is told all the same. -/
theorem told_after_cancel :
    let taken : List LiveOp := [.start, .receive 1 (.connected (.ok ())),
      .receive 1 (.frame ⟨"snapshot", "\x7b\"timestamp\":7\x7d"⟩)]
    Effect.toldBy 1 (run {} (taken ++ [.stop])).2 = [] ∧
      Effect.toldBy 1 (run {} (taken ++ [.stop, .receive 1 .turn])).2 =
        [.snapshot { timestamp := 7 }] ∧
      Effect.toldBy 1 (run {} (taken ++ [.start])).2 = [] ∧
      Effect.toldBy 1 (run {} (taken ++ [.start, .receive 1 .turn])).2 =
        [.snapshot { timestamp := 7 }] := by
  decide +kernel

end LiveFeed

end SnapshotViewer
