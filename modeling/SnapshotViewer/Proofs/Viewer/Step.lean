import SnapshotViewer.Proofs.Feed.Live
import SnapshotViewer.Proofs.Keyboard.Operation
import SnapshotViewer.Proofs.Navigator.Writes
import SnapshotViewer.Proofs.Outcome

/-!
# What a step of the viewer can do

A handler first does its work and then saves the address.  The work either concerns what is shown,
the choices of the user or the valve of a live feed, each in a few ways only, or leaves all three
alone: then it is about the connection, about a request of the feed or about a text on the screen.
`step_work` says this once for everything that can happen to a viewer.

What the handler gets done on the navigator is at most one operation, so what is known of the
operations of a navigator carries over (`Step.nav`).

## Main definitions

* `performed` — what a key asks for is done.
* `work`, `saves` — the work of a handler, and whether it saves the address then.
* `shows?`, `meets?` — the snapshot that is shown, and the one that meets the valve.
* `Kept` — nothing that is shown, saved or held back has changed.
* `Step` — what the work can lead to.

## Main statements

* `apply_of_saves`, `apply_of_not_saves` — a handler is its work and the saving.
* `step_work` — all work is such a step.
* `Step.nav`, `Step.store`, `Step.valve` — what a step does to the navigator, to the store and to
  the valve.
* `nav_apply`, `store_apply` — what a handler does to the navigator and to the store.
-/

namespace SnapshotViewer

/-- The snapshot that an operation shows to a navigator. -/
def NavigatorOp.snapshot? : NavigatorOp → Option Snapshot
  | .onSnapshot s => some s
  | _ => none

/-- An operation of a navigator leads to the snapshot that it shows, if it shows one. -/
theorem Navigator.current_apply (n : Navigator) (op : NavigatorOp) :
    (n.apply op).current = op.snapshot?.or n.current := by
  have hstep := step_apply n op
  generalize n.apply op = m at hstep
  cases hstep with
  | quiet h hm =>
    have hop : op.snapshot? = none := by
      cases op with
      | onSnapshot s => cases h
      | _ => rfl
    rw [hop]
    cases hm <;> rfl
  | leave h => rfl
  | ask h =>
    have hop : op.snapshot? = none := by
      cases op with
      | onSnapshot s => cases h
      | _ => rfl
    rw [hop, current_ask]
    rfl
  | arrive s => exact current_onSnapshot n s

namespace Viewer

/-! ## Work, then saving -/

/-- The viewer behind what a key asks for.  A program that breaks off has done nothing of it. -/
def performed (v : Viewer) (a : KeyAction) : Viewer :=
  match v.perform a with
  | .ok result => result.1
  | .error _ => v

theorem performed_of_ok {v : Viewer} {a : KeyAction} {result : Viewer × List Effect}
    (h : v.perform a = .ok result) : v.performed a = result.1 := by
  rw [performed, h]

theorem performed_of_error {v : Viewer} {a : KeyAction} {crash : Crash}
    (h : v.perform a = .error crash) : v.performed a = v := by
  rw [performed, h]

/-- The viewer after the work of a handler. -/
def work (v : Viewer) : ViewerOp → Viewer
  | .event (.snapshot s) =>
    match v.source.pass s with
    | (source, none) => { v with source }
    | (source, some s) => { v with source }.accept s
  | .event (.transient e) => (v.onTransient e).1
  | .event (.failed e) => (v.onFailure e).1
  | .key now k => (pressed now v k).performed (v.input.handleKey now v.nav k).action
  | .report n s => (v.receive n s).1
  | .rearrange _ => v

/-- Whether the address is saved then: only handlers do that, but not for a snapshot that is held
back, nor in a program that breaks off. -/
def saves (v : Viewer) : ViewerOp → Bool
  | .event (.snapshot _) => !v.isPaused
  | .event _ => true
  | .key now k => ((pressed now v k).perform (v.input.handleKey now v.nav k).action).isOk
  | .report .. | .rearrange _ => false

end Viewer

/-- The files when no handler touches them. -/
def ViewerOp.rearranged (files : Files) : ViewerOp → Files
  | .rearrange change => change files
  | _ => files

namespace Source
variable {x : Source} {s : Snapshot}

theorem pass_live (f : LiveFeed) (s : Snapshot) :
    (live f).pass s = (live { f with valve := (f.valve.pass s).1 }, (f.valve.pass s).2) := rfl

theorem pass_of_open (h : x.isPaused = false) : x.pass s = (x, some s) := by
  cases x with
  | history f => rfl
  | live f => rw [pass_live, f.valve.pass_of_open s h]

theorem pass_of_paused (h : x.isPaused = true) : x.pass s = ((x.pass s).1, none) := by
  cases x with
  | history f => cases h
  | live f => rw [pass_live, f.valve.pass_of_paused s h]

theorem isPaused_eq (x : Source) : x.isPaused = (x.valve?.map (·.paused)).getD false := by
  cases x with
  | history f => rfl
  | live f => rfl

theorem valve?_pass (x : Source) (s : Snapshot) :
    (x.pass s).1.valve? = x.valve?.map fun v => (v.pass s).1 := by
  cases x with
  | history f => rfl
  | live f => rfl

/-- A report leaves the valve as it was, but for a snapshot that comes in. -/
theorem valve?_receive (x : Source) (n : Nat) (signal : Signal) :
    (x.receive n signal).1.valve? =
      (((x.arrival? n signal).map fun s => (x.pass s).1).getD x).valve? := by
  cases x with
  | history f => rfl
  | live f =>
    have hvalve : ((live f).receive n signal).1.valve? = some (f.receive n signal).1.valve := rfl
    have harrives : (live f).arrival? n signal = f.arrival? n signal := rfl
    rw [hvalve, harrives]
    cases h : f.arrival? n signal with
    | none => rw [(LiveFeed.receive_of_none h).1]; rfl
    | some s => rw [(LiveFeed.receive_of_arrival h).1]; rfl

end Source

namespace HistoryFeed

/-- A move that a history makes is a jump to its target. -/
theorem exists_of_step? {f : HistoryFeed} {s : Snapshot} {step : HistoryStep}
    {move : HistoryFeed × List Effect} (h : f.step? s step = .ok (some move)) :
    ∃ t d, step.target? s = .ok (some (t, d)) ∧ f.jump t (some d) = move := by
  obtain ⟨target?, htarget, hmove⟩ := exists_of_map_eq_ok h
  obtain ⟨⟨t, d⟩, rfl, hjump⟩ := Option.map_eq_some_iff.1 hmove
  exact ⟨t, d, htarget, hjump⟩

end HistoryFeed

namespace Viewer
variable {v w : Viewer} {fs : Files} {op : ViewerOp} {s : Snapshot}

theorem work_of_paused (h : v.isPaused = true) :
    v.work (.event (.snapshot s)) = { v with source := (v.source.pass s).1 } := by
  rw [work, Source.pass_of_paused h]

theorem work_of_open (h : v.isPaused = false) : v.work (.event (.snapshot s)) = v.accept s := by
  rw [work, Source.pass_of_open h]

/-- A handler that saves the address does its work first. -/
theorem apply_of_saves (h : v.saves op = true) :
    apply (v, fs) op = (((v.work op).persist fs).viewer, ((v.work op).persist fs).files) ∧
      saved? (v, fs) op = ((v.work op).persist fs).saved := by
  cases op with
  | event e =>
    cases e with
    | snapshot s =>
      have hopen : v.isPaused = false := by simpa [saves] using h
      have hevent : v.onEvent fs (.snapshot s) = handled (v.accept s, []) fs := by
        rw [onEvent, Source.pass_of_open hopen]
      rw [work_of_open hopen, apply, saved?, hevent]
      exact ⟨rfl, rfl⟩
    | transient e => exact ⟨rfl, rfl⟩
    | failed e => exact ⟨rfl, rfl⟩
  | key now k =>
    obtain ⟨result, hdone⟩ := exists_of_isOk h
    rw [work, performed_of_ok hdone, apply, saved?, onKey, hdone]
    exact ⟨rfl, rfl⟩
  | report n s => cases h
  | rearrange change => cases h

/-- Anything else that happens is the work alone. -/
theorem apply_of_not_saves (h : v.saves op = false) :
    apply (v, fs) op = (v.work op, op.rearranged fs) ∧ saved? (v, fs) op = none := by
  cases op with
  | event e =>
    cases e with
    | snapshot s =>
      have hpaused : v.isPaused = true := by simpa [saves] using h
      have hevent : v.onEvent fs (.snapshot s) =
          { viewer := { v with source := (v.source.pass s).1 }, files := fs } := by
        rw [onEvent, Source.pass_of_paused hpaused]
      rw [work_of_paused hpaused, apply, saved?, hevent]
      exact ⟨rfl, rfl⟩
    | transient e => cases h
    | failed e => cases h
  | key now k =>
    obtain ⟨crash, hcrash⟩ := exists_of_isOk_eq_false h
    rw [work, performed_of_error hcrash, apply, saved?, onKey, hcrash]
    exact ⟨rfl, rfl⟩
  | report n s => exact ⟨rfl, rfl⟩
  | rearrange change => exact ⟨rfl, rfl⟩

/-- The files that a handler finds are those that were there before. -/
theorem rearranged_of_saves (h : v.saves op = true) : op.rearranged fs = fs := by
  cases op with
  | rearrange change => cases h
  | _ => rfl

/-- Saving the address only takes the note of the navigator away. -/
theorem viewer_persist (v : Viewer) (fs : Files) :
    (v.persist fs).viewer = { v with nav := { v.nav with dirty := false } } := by
  unfold persist
  rw [Navigator.takeUpdate_eq]
  cases v.nav.dirty with
  | false => rfl
  | true => cases v.addressFile <;> rfl

/-- Saving the address does not break the program off. -/
theorem crash_persist (v : Viewer) (fs : Files) : (v.persist fs).crash = none := by
  unfold persist
  rw [Navigator.takeUpdate_eq]
  cases v.nav.dirty with
  | false => rfl
  | true => cases v.addressFile <;> rfl

/-- Without a change there is nothing to save. -/
theorem persist_of_clean (h : v.nav.dirty = false) :
    v.persist fs = { viewer := v, files := fs } := by
  unfold persist
  rw [Navigator.takeUpdate_of_clean h]

/-- A change is saved to the address file, if there is to be one. -/
theorem persist_of_dirty {path : Path} (h : v.nav.dirty = true) (hp : v.addressFile = some path) :
    (v.persist fs).files = (AddressFile.save fs path v.nav.address).1 ∧
      (v.persist fs).saved = some (AddressFile.save fs path v.nav.address).2 := by
  unfold persist
  rw [Navigator.takeUpdate_eq, h, hp]
  exact ⟨rfl, rfl⟩

/-! ## What is left alone -/

/-- What is shown, where it is saved and what the valve holds back are as before. -/
structure Kept (v w : Viewer) : Prop where
  nav : w.nav = v.nav
  current : w.store.current = v.store.current
  generation : w.store.generation = v.store.generation
  closed : w.store.closed = v.store.closed
  addressFile : w.addressFile = v.addressFile
  valve : w.source.valve? = v.source.valve?

theorem Kept.refl (v : Viewer) : Kept v v := ⟨rfl, rfl, rfl, rfl, rfl, rfl⟩

theorem Kept.trans {u : Viewer} (h : Kept u v) (h' : Kept v w) : Kept u w where
  nav := h'.nav.trans h.nav
  current := h'.current.trans h.current
  generation := h'.generation.trans h.generation
  closed := h'.closed.trans h.closed
  addressFile := h'.addressFile.trans h.addressFile
  valve := h'.valve.trans h.valve

theorem kept_reached (v : Viewer) (c : Connection) : Kept v (v.reached c) := by
  unfold reached
  split
  · exact .refl v
  · exact ⟨rfl, rfl, rfl, rfl, rfl, rfl⟩

theorem kept_setError (v : Viewer) (message : String) :
    Kept v { v with store := v.store.setError message } := by
  unfold Store.setError
  split
  · exact .refl v
  · exact ⟨rfl, rfl, rfl, rfl, rfl, rfl⟩

theorem kept_requireReauth (v : Viewer) : Kept v v.requireReauth.1 := by
  unfold requireReauth
  split
  · exact .refl v
  · refine (kept_setError v reauthNotice).trans ⟨rfl, rfl, rfl, rfl, rfl, ?_⟩
    cases v.source <;> rfl

theorem kept_onTransient (v : Viewer) (e : ProviderError) : Kept v (v.onTransient e).1 := by
  unfold onTransient
  split
  · exact kept_requireReauth v
  · exact kept_reached v .reconnecting

theorem kept_onFailure (v : Viewer) (e : ProviderError) : Kept v (v.onFailure e).1 := by
  unfold onFailure
  split
  · exact kept_requireReauth v
  · exact kept_setError v e.message

/-- A move in time is one of a history that shows a snapshot, or comes to nothing. -/
theorem moveInTime_cases (v : Viewer) (step : HistoryStep) :
    v.moveInTime step = .ok (v, []) ∨
      ∃ f s, v.source = .history f ∧ v.store.current = some s ∧
        v.moveInTime step = (f.step? s step).map (v.moved step) := by
  unfold moveInTime
  split
  · next f s hsource hcurrent => exact .inr ⟨f, s, hsource, hcurrent, rfl⟩
  · exact .inl rfl

/-- The feed of a history may have been set to work. -/
def SameFeed (x y : Source) : Prop := y = x ∨ ∃ f g, x = .history f ∧ y = .history g

/-- Pausing apart, what a key asks for at most sets the feed of a history to work, says something on
the screen or ends the program. -/
theorem exists_performed (v : Viewer) {a : KeyAction} (h : a ≠ .togglePause) :
    ∃ source status quitting, SameFeed v.source source ∧
      v.performed a = { v with source, input := { v.input with status }, quitting } := by
  cases a with
  | none => exact ⟨_, _, _, .inl rfl, rfl⟩
  | quit => exact ⟨_, _, _, .inl rfl, rfl⟩
  | togglePause => exact absurd rfl h
  | historyStep step =>
    rw [performed, perform]
    rcases v.moveInTime_cases step with hmove | ⟨f, s, hsource, -, hmove⟩
    · rw [hmove]
      exact ⟨_, _, _, .inl rfl, rfl⟩
    · rw [hmove]
      cases f.step? s step with
      | error crash => exact ⟨_, _, _, .inl rfl, rfl⟩
      | ok move? =>
        cases move? with
        | none => exact ⟨_, _, _, .inl rfl, rfl⟩
        | some move => exact ⟨_, _, _, .inr ⟨f, _, hsource, rfl⟩, rfl⟩
  | jumpTo timestamp =>
    show ∃ _, ∃ _, ∃ _, _ ∧ (v.jumpTo timestamp).1 = _
    unfold jumpTo
    split
    · next hsource => exact ⟨_, _, _, .inr ⟨_, _, hsource, rfl⟩, rfl⟩
    · exact ⟨_, _, _, .inl rfl, rfl⟩

theorem SameFeed.valve? {x y : Source} (h : SameFeed x y) : y.valve? = x.valve? := by
  rcases h with rfl | ⟨f, g, rfl, rfl⟩
  · rfl
  · rfl

/-- Pausing apart, what a key asks for leaves everything alone. -/
theorem kept_performed (v : Viewer) {a : KeyAction} (h : a ≠ .togglePause) :
    Kept v (v.performed a) := by
  obtain ⟨source, status, quitting, hsource, hperformed⟩ := exists_performed v h
  rw [hperformed]
  exact ⟨rfl, rfl, rfl, rfl, rfl, hsource.valve?⟩

/-! ## Steps -/

/-- The snapshot that something shows: one that is not held back, unless the store is closed. -/
def shows? (v : Viewer) : ViewerOp → Option Snapshot
  | .event (.snapshot s) => if v.isPaused || v.store.closed then none else some s
  | _ => none

theorem shows?_of_paused (h : v.isPaused = true) (op : ViewerOp) : v.shows? op = none := by
  unfold shows?
  split
  · simp [h]
  · rfl

theorem shows?_of_closed (h : v.store.closed = true) (op : ViewerOp) : v.shows? op = none := by
  unfold shows?
  split
  · simp [h]
  · rfl

theorem shows?_of_open (hopen : v.isPaused = false) (hclosed : v.store.closed = false) :
    v.shows? (.event (.snapshot s)) = some s := by
  simp [shows?, hopen, hclosed]

theorem shows?_eq_none (h : ∀ s, op ≠ .event (.snapshot s)) : v.shows? op = none := by
  unfold shows?
  split
  · next s => exact absurd rfl (h s)
  · rfl

theorem eq_of_shows (h : v.shows? op = some s) : op = .event (.snapshot s) := by
  unfold shows? at h
  split at h
  · split at h
    · cases h
    · rw [Option.some.inj h]
  · cases h

/-- The snapshot that meets the valve: one that the viewer handles or one that comes in. -/
def meets? (v : Viewer) : ViewerOp → Option Snapshot
  | .event (.snapshot s) => some s
  | .report n s => v.source.arrival? n s
  | _ => none

theorem meets?_eq_none (hevent : ∀ s, op ≠ .event (.snapshot s))
    (hreport : ∀ n s, op ≠ .report n s) : v.meets? op = none := by
  unfold meets?
  split
  · next s => exact absurd rfl (hevent s)
  · next n s => exact absurd rfl (hreport n s)
  · rfl

/-- What the work of something that happens can lead to. -/
inductive Step (v : Viewer) : ViewerOp → Viewer → Prop
  /-- Nothing that is shown, saved or held back is concerned. -/
  | keep {op : ViewerOp} {w : Viewer} (hevent : ∀ s, op ≠ .event (.snapshot s))
    (hreport : ∀ n s, op ≠ .report n s) (h : Kept v w) : Step v op w
  /-- A snapshot is held back by the viewer. -/
  | hold {s : Snapshot} {w : Viewer} (hpaused : v.isPaused = true)
    (h : Kept { v with source := (v.source.pass s).1 } w) : Step v (.event (.snapshot s)) w
  /-- A closed store refuses a snapshot. -/
  | refuse {s : Snapshot} {w : Viewer} (hopen : v.isPaused = false)
    (hclosed : v.store.closed = true) (h : Kept v w) : Step v (.event (.snapshot s)) w
  /-- A snapshot is shown. -/
  | present {s : Snapshot} {w : Viewer} (hopen : v.isPaused = false)
    (hclosed : v.store.closed = false)
    (h : Kept { v with store := v.store.replace s, nav := v.nav.onSnapshot s } w) :
    Step v (.event (.snapshot s)) w
  /-- The feed works; the valve holds back what comes in while it is shut. -/
  | feed {n : Nat} {s : Signal} {w : Viewer}
    (h : Kept
      { v with source := ((v.source.arrival? n s).map fun x => (v.source.pass x).1).getD v.source }
      w) :
    Step v (.report n s) w
  /-- A key commands the navigator. -/
  | command {now : Int} {k : Key} {w : Viewer} (x : NavigatorOp) (hx : x.isTyped = true)
    (h : Kept { v with nav := v.nav.apply x } w) : Step v (.key now k) w
  /-- A key shuts the valve. -/
  | pause {now : Int} {k : Key} {w : Viewer} {f : LiveFeed} (hsource : v.source = .live f)
    (hopen : f.valve.paused = false)
    (h : Kept
      { v with
        source := .live f.pause
        nav := v.nav.setTimestamp (v.store.current.map (·.timestamp)) }
      w) :
    Step v (.key now k) w
  /-- A key opens the valve. -/
  | resume {now : Int} {k : Key} {w : Viewer} {f : LiveFeed} (hsource : v.source = .live f)
    (hpaused : f.valve.paused = true)
    (h : Kept { v with source := .live f.resume, nav := v.nav.setTimestamp none } w) :
    Step v (.key now k) w

theorem togglePause_of_open {f : LiveFeed} (hsource : v.source = .live f)
    (hopen : f.valve.paused = false) : v.togglePause =
      { v with
        source := .live f.pause
        nav := v.nav.setTimestamp (v.store.current.map (·.timestamp)) } := by
  simp [togglePause, hsource, hopen]

theorem togglePause_of_paused {f : LiveFeed} (hsource : v.source = .live f)
    (hpaused : f.valve.paused = true) :
    v.togglePause = { v with source := .live f.resume, nav := v.nav.setTimestamp none } := by
  simp [togglePause, hsource, hpaused]

theorem step_togglePause {u : Viewer} (h : Kept v u) (hsource : u.source = v.source) (now : Int)
    (k : Key) : Step v (.key now k) u.togglePause := by
  cases hu : u.source with
  | history f =>
    have htoggle : u.togglePause = u := by simp [togglePause, hu]
    rw [htoggle]
    exact .keep (by simp) (by simp) h
  | live f =>
    have hv : v.source = .live f := hsource.symm.trans hu
    cases hp : f.valve.paused with
    | false =>
      rw [togglePause_of_open hu hp]
      refine .pause hv hp ⟨?_, h.current, h.generation, h.closed, h.addressFile, rfl⟩
      simp only [h.nav, h.current]
    | true =>
      rw [togglePause_of_paused hu hp]
      refine .resume hv hp ⟨?_, h.current, h.generation, h.closed, h.addressFile, rfl⟩
      simp only [h.nav]

theorem step_key (v : Viewer) (now : Int) (k : Key) : Step v (.key now k) (v.work (.key now k)) := by
  unfold work pressed
  dsimp only
  have hidle := InputState.idle_handleKey v.input v.nav k now
  have htyped := InputState.typed_handleKey v.input v.nav k now
  generalize v.input.handleKey now v.nav k = r at hidle htyped
  obtain ⟨input, nav, action⟩ := r
  by_cases ha : action = .togglePause
  · obtain rfl : nav = v.nav := by simpa [ha] using hidle
    rw [ha]
    have hinput : Kept v { v with input } := ⟨rfl, rfl, rfl, rfl, rfl, rfl⟩
    exact step_togglePause hinput rfl now k
  · have hinput : Kept { v with nav } { v with input, nav } := ⟨rfl, rfl, rfl, rfl, rfl, rfl⟩
    have hkept := hinput.trans (kept_performed { v with input, nav } ha)
    cases htyped with
    | nothing => exact .keep (by simp) (by simp) hkept
    | one x hx => exact .command x hx hkept

theorem step_accept (v : Viewer) (s : Snapshot) (hopen : v.isPaused = false) :
    Step v (.event (.snapshot s)) (v.accept s) := by
  unfold accept Store.accepts
  cases hclosed : v.store.closed with
  | true => exact .refuse hopen hclosed (.refl v)
  | false => exact .present hopen hclosed (kept_reached _ _)

/-- The valve is all that a report can change of what is kept. -/
theorem step_receive (v : Viewer) (n : Nat) (s : Signal) :
    Step v (.report n s) (v.receive n s).1 :=
  .feed ⟨rfl, rfl, rfl, rfl, rfl, v.source.valve?_receive n s⟩

/-- All work is a step. -/
theorem step_work (v : Viewer) (op : ViewerOp) : Step v op (v.work op) := by
  cases op with
  | event e =>
    cases e with
    | snapshot s =>
      cases hp : v.isPaused with
      | true =>
        rw [work_of_paused hp]
        exact .hold hp (.refl _)
      | false =>
        rw [work_of_open hp]
        exact step_accept v s hp
    | transient e => exact .keep (by simp) (by simp) (kept_onTransient v e)
    | failed e => exact .keep (by simp) (by simp) (kept_onFailure v e)
  | key now k => exact step_key v now k
  | report n s => exact step_receive v n s
  | rearrange change => exact .keep (by simp) (by simp) (.refl v)

/-- A key that makes the program break off leaves the navigator alone: it asks for something. -/
theorem nav_pressed_of_crash {now : Int} {k : Key} {crash : Crash}
    (h : (pressed now v k).perform (v.input.handleKey now v.nav k).action = .error crash) :
    (pressed now v k).nav = v.nav := by
  refine (InputState.idle_handleKey v.input v.nav k now).resolve_left fun hnone => ?_
  rw [hnone] at h
  cases h

/-- Whatever does not save the address leaves the navigator alone. -/
theorem nav_work_of_not_saves (h : v.saves op = false) : (v.work op).nav = v.nav := by
  cases op with
  | event e =>
    cases e with
    | snapshot s =>
      have hpaused : v.isPaused = true := by simpa [saves] using h
      rw [work_of_paused hpaused]
    | transient e => cases h
    | failed e => cases h
  | key now k =>
    obtain ⟨crash, hcrash⟩ := exists_of_isOk_eq_false h
    rw [work, performed_of_error hcrash, nav_pressed_of_crash hcrash]
  | report n s => rfl
  | rearrange change => rfl

/-! ## What a step does to the navigator, to the store and to the valve -/

namespace Step
variable (h : Step v op w)
include h

/-- A step does nothing to the navigator, or one operation, and that shows what the step shows. -/
theorem nav : w.nav = v.nav ∧ v.shows? op = none ∨
    ∃ x, x ≠ .takeUpdate ∧ w.nav = v.nav.apply x ∧ x.snapshot? = v.shows? op := by
  cases h with
  | keep hevent hreport h => exact .inl ⟨h.nav, shows?_eq_none hevent⟩
  | hold hpaused h => exact .inl ⟨h.nav, shows?_of_paused hpaused _⟩
  | refuse hopen hclosed h => exact .inl ⟨h.nav, shows?_of_closed hclosed _⟩
  | present hopen hclosed h =>
    exact .inr ⟨.onSnapshot _, by simp, h.nav, (shows?_of_open hopen hclosed).symm⟩
  | feed h => exact .inl ⟨h.nav, rfl⟩
  | command x hx h =>
    have htake : x ≠ .takeUpdate := by
      rintro rfl
      cases hx
    have hshow : x.snapshot? = none := by
      cases x with
      | onSnapshot s => cases hx
      | _ => rfl
    exact .inr ⟨x, htake, h.nav, hshow⟩
  | pause hsource hopen h => exact .inr ⟨.setTimestamp _, by simp, h.nav, rfl⟩
  | resume hsource hpaused h => exact .inr ⟨.setTimestamp none, by simp, h.nav, rfl⟩

/-- A step puts the snapshot that it shows into the store, and counts it. -/
theorem store : w.store.current = (v.shows? op).or v.store.current ∧
    w.store.generation = v.store.generation + (v.shows? op).toList.length ∧
    w.store.closed = v.store.closed := by
  cases h with
  | keep hevent hreport h =>
    rw [shows?_eq_none hevent]
    exact ⟨h.current, h.generation, h.closed⟩
  | hold hpaused h =>
    rw [shows?_of_paused hpaused]
    exact ⟨h.current, h.generation, h.closed⟩
  | refuse hopen hclosed h =>
    rw [shows?_of_closed hclosed]
    exact ⟨h.current, h.generation, h.closed⟩
  | present hopen hclosed h =>
    rw [shows?_of_open hopen hclosed, h.current, h.generation, h.closed]
    simp [Store.replace, hclosed]
  | feed h => exact ⟨h.current, h.generation, h.closed⟩
  | command x hx h => exact ⟨h.current, h.generation, h.closed⟩
  | pause hsource hopen h => exact ⟨h.current, h.generation, h.closed⟩
  | resume hsource hpaused h => exact ⟨h.current, h.generation, h.closed⟩

theorem addressFile : w.addressFile = v.addressFile := by
  cases h with
  | keep hevent hreport h => exact h.addressFile
  | hold hpaused h => exact h.addressFile
  | refuse hopen hclosed h => exact h.addressFile
  | present hopen hclosed h => exact h.addressFile
  | feed h => exact h.addressFile
  | command x hx h => exact h.addressFile
  | pause hsource hopen h => exact h.addressFile
  | resume hsource hpaused h => exact h.addressFile

/-- What is shown has passed an open valve, which stays open. -/
theorem isPaused_of_shows (hs : v.shows? op ≠ none) : w.isPaused = false := by
  cases h with
  | keep hevent hreport h => exact absurd (shows?_eq_none hevent) hs
  | hold hpaused h => exact absurd (shows?_of_paused hpaused _) hs
  | refuse hopen hclosed h => exact absurd (shows?_of_closed hclosed _) hs
  | present hopen hclosed h =>
    rw [isPaused, Source.isPaused_eq, h.valve, ← Source.isPaused_eq]
    exact hopen
  | feed h => exact absurd rfl hs
  | command x hx h => exact absurd rfl hs
  | pause hsource hopen h => exact absurd rfl hs
  | resume hsource hpaused h => exact absurd rfl hs

/-- A step lets the valve hold back or pass what meets it, or the user shuts or opens it. -/
theorem valve {x : Valve} (hx : v.source.valve? = some x) :
    w.source.valve? = some (((v.meets? op).map fun s => (x.pass s).1).getD x) ∨
      v.meets? op = none ∧ x.paused = false ∧ w.source.valve? = some x.pause ∨
      v.meets? op = none ∧ x.paused = true ∧ w.source.valve? = some x.resume := by
  have hpaused : v.isPaused = x.paused := by rw [isPaused, Source.isPaused_eq, hx]; rfl
  cases h with
  | keep hevent hreport h =>
    rw [meets?_eq_none hevent hreport, h.valve]
    exact .inl hx
  | hold hheld h =>
    rw [h.valve, Source.valve?_pass, hx]
    exact .inl rfl
  | @refuse s w hopen hclosed h =>
    rw [h.valve, hx, meets?, Option.map_some, x.pass_of_open s (hpaused ▸ hopen)]
    exact .inl rfl
  | @present s w hopen hclosed h =>
    rw [h.valve, hx, meets?, Option.map_some, x.pass_of_open s (hpaused ▸ hopen)]
    exact .inl rfl
  | @feed n s w h =>
    rw [h.valve, meets?]
    cases v.source.arrival? n s with
    | none => exact .inl hx
    | some a => exact .inl (by simp [Source.valve?_pass, hx])
  | command x hx' h => exact .inl (h.valve.trans hx)
  | pause hsource hopen h =>
    obtain rfl : _ = x := by simpa [hsource, Source.valve?] using hx
    exact .inr (.inl ⟨rfl, hopen, h.valve⟩)
  | resume hsource hshut h =>
    obtain rfl : _ = x := by simpa [hsource, Source.valve?] using hx
    exact .inr (.inr ⟨rfl, hshut, h.valve⟩)

end Step

/-! ## What happens to a viewer -/

/-- Whatever happens, the viewer behind it is the one behind the work, with or without a note
that there is something to save. -/
theorem viewer_apply (v : Viewer) (fs : Files) (op : ViewerOp) : ∃ w, Step v op w ∧
    (apply (v, fs) op).1 =
      if v.saves op then { w with nav := w.nav.apply .takeUpdate } else w := by
  refine ⟨v.work op, step_work v op, ?_⟩
  cases hs : v.saves op with
  | true =>
    rw [(apply_of_saves hs).1, if_pos rfl, Navigator.apply, Navigator.takeUpdate_eq]
    exact viewer_persist _ fs
  | false =>
    rw [(apply_of_not_saves hs).1]
    rfl

theorem store_apply (v : Viewer) (fs : Files) (op : ViewerOp) :
    (apply (v, fs) op).1.store.current = (v.shows? op).or v.store.current ∧
      (apply (v, fs) op).1.store.generation =
        v.store.generation + (v.shows? op).toList.length ∧
      (apply (v, fs) op).1.store.closed = v.store.closed := by
  obtain ⟨w, hstep, hviewer⟩ := viewer_apply v fs op
  have hstore : (apply (v, fs) op).1.store = w.store := by
    rw [hviewer]
    split <;> rfl
  rw [hstore]
  exact hstep.store

/-- Whatever happens to a viewer is a run of its navigator, which is given the snapshot that is
shown. -/
theorem nav_apply (v : Viewer) (fs : Files) (op : ViewerOp) :
    ∃ xs, (apply (v, fs) op).1.nav = v.nav.run xs ∧
      xs.filterMap NavigatorOp.snapshot? = (v.shows? op).toList := by
  obtain ⟨w, hstep, hviewer⟩ := viewer_apply v fs op
  have hwork : ∃ xs, w.nav = v.nav.run xs ∧
      xs.filterMap NavigatorOp.snapshot? = (v.shows? op).toList := by
    rcases hstep.nav with ⟨hnav, hshow⟩ | ⟨x, -, hnav, hshow⟩
    · exact ⟨[], hnav, by rw [hshow]; rfl⟩
    · refine ⟨[x], hnav, ?_⟩
      rw [← hshow]
      cases hx : x.snapshot? <;> simp [hx]
  obtain ⟨xs, hnav, hshow⟩ := hwork
  rw [hviewer]
  split
  · refine ⟨xs ++ [.takeUpdate], ?_, ?_⟩
    · rw [Navigator.run_append, ← hnav]
      rfl
    · rw [List.filterMap_append, hshow]
      simp [NavigatorOp.snapshot?]
  · exact ⟨xs, hnav, hshow⟩

/-- The navigator and the store are led to the same snapshot. -/
theorem nav_current_apply (v : Viewer) (fs : Files) (op : ViewerOp) :
    (apply (v, fs) op).1.nav.current = (v.shows? op).or v.nav.current := by
  obtain ⟨w, hstep, hviewer⟩ := viewer_apply v fs op
  have hcurrent : (apply (v, fs) op).1.nav.current = w.nav.current := by
    rw [hviewer]
    split
    · exact Navigator.current_apply w.nav .takeUpdate
    · rfl
  rw [hcurrent]
  rcases hstep.nav with ⟨hnav, hshow⟩ | ⟨x, -, hnav, hshow⟩
  · rw [hnav, hshow]
    rfl
  · rw [hnav, Navigator.current_apply, hshow]

end Viewer

end SnapshotViewer
