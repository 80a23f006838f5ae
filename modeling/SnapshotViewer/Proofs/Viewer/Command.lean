import SnapshotViewer.Proofs.Keyboard.Order
import SnapshotViewer.Proofs.Viewer.Step

/-!
# What keys ask of a viewer

A viewer can pause a live feed only, and move in time only in a history, so it passes over what a
key asks of a feed of the other kind.  That never happens.  The keyboard knows from the start which
kind of feed there is, a feed never turns into one of the other kind, and whatever is shown or said
meanwhile, the keyboard stays in order and so asks for nothing that does not suit the feed.

## Main definitions

* `Obeys` — a viewer does what is asked for.
* `Attuned` — the keyboard is in order and knows what kind of feed there is.

## Main statements

* `obeys_of_suits` — what suits the feed is done.
* `Attuned.apply` — whatever happens, the keyboard stays attuned to the feed.
* `keys_in_order` — the keyboard is in order in every run, and the viewer does what it asks for.
-/

namespace SnapshotViewer

namespace Source

theorem isLive_eq (x : Source) : x.isLive = x.valve?.isSome := by
  cases x with
  | live f => rfl
  | history f => rfl

end Source

namespace Viewer
open InputState

variable {v w : Viewer} {fs : Files} {op : ViewerOp} {a : KeyAction}

/-! ## Doing what is asked for -/

/-- A viewer does what is asked for: a pause begins or ends, and a history is told where to move,
unless that leads past its end or out of the bounds of time. -/
def Obeys (v : Viewer) : KeyAction → Prop
  | .none => True
  | .quit => ∃ w, v.perform .quit = .ok (w, []) ∧ w.quitting = true
  | .togglePause => ∃ w, v.perform .togglePause = .ok (w, []) ∧ w.isPaused = !v.isPaused
  | .historyStep step => ∃ f, v.source = .history f ∧ ∀ s, v.store.current = some s →
    v.perform (.historyStep step) =
      match f.step? s step with
      | .ok (some (g, effects)) => .ok ({ v with source := .history g }, effects)
      | .ok none => .ok ({ v with input := { v.input with status := some (edgeText step) } }, [])
      | .error crash => .error crash
  | .jumpTo t => ∃ f, v.source = .history f ∧ v.perform (.jumpTo t) =
    .ok ({ v with source := .history (f.jump t (some .floor)).1 }, (f.jump t (some .floor)).2)

theorem isPaused_togglePause {f : LiveFeed} (h : v.source = .live f) :
    v.togglePause.isPaused = !v.isPaused := by
  have hpaused : v.isPaused = f.valve.paused := by rw [isPaused, h]; rfl
  cases hvalve : f.valve.paused with
  | false =>
    rw [togglePause_of_open h hvalve, hpaused, hvalve]
    rfl
  | true =>
    rw [togglePause_of_paused h hvalve, hpaused, hvalve]
    rfl

/-- What suits the feed is done. -/
theorem obeys_of_suits (h : a.suits v.source.isLive = true) : v.Obeys a := by
  cases a with
  | none => trivial
  | quit => exact ⟨_, rfl, rfl⟩
  | togglePause =>
    cases hsource : v.source with
    | live f => exact ⟨_, rfl, isPaused_togglePause hsource⟩
    | history f => simp [KeyAction.suits, Source.isLive, hsource] at h
  | historyStep step =>
    cases hsource : v.source with
    | live f => simp [KeyAction.suits, Source.isLive, hsource] at h
    | history f =>
      refine ⟨f, hsource, fun s hs => ?_⟩
      have hmove : v.perform (.historyStep step) = (f.step? s step).map (v.moved step) := by
        simp only [perform, moveInTime, hsource, hs]
      rw [hmove]
      cases f.step? s step with
      | error crash => rfl
      | ok move? => cases move? <;> rfl
  | jumpTo t =>
    cases hsource : v.source with
    | live f => simp [KeyAction.suits, Source.isLive, hsource] at h
    | history f => exact ⟨f, hsource, by simp only [perform, jumpTo, hsource]⟩

/-! ## What becomes of the keyboard and of the kind of feed -/

/-- A feed never turns into one of the other kind. -/
theorem Step.isLive (h : Step v op w) : w.source.isLive = v.source.isLive := by
  rw [Source.isLive_eq, Source.isLive_eq]
  cases h with
  | keep hevent hreport h => rw [h.valve]
  | hold hpaused h => rw [h.valve, Source.valve?_pass, Option.isSome_map]
  | refuse hopen hclosed h => rw [h.valve]
  | present hopen hclosed h => rw [h.valve]
  | @feed n s w h =>
    rw [h.valve]
    cases v.source.arrival? n s with
    | none => rfl
    | some x => simp [Source.valve?_pass]
  | command x hx h => rw [h.valve]
  | pause hsource hopen h => rw [h.valve, hsource]; rfl
  | resume hsource hpaused h => rw [h.valve, hsource]; rfl

theorem input_reached (v : Viewer) (c : Connection) : (v.reached c).input = v.input := by
  rw [reached]
  split <;> rfl

theorem input_accept (v : Viewer) (s : Snapshot) : (v.accept s).input = v.input := by
  rw [accept]
  split
  · exact input_reached _ _
  · rfl

theorem input_requireReauth (v : Viewer) : v.requireReauth.1.input = v.input := by
  rw [requireReauth]
  split <;> rfl

theorem input_onTransient (v : Viewer) (e : ProviderError) :
    (v.onTransient e).1.input = v.input := by
  rw [onTransient]
  split
  · exact input_requireReauth v
  · exact input_reached v _

theorem input_onFailure (v : Viewer) (e : ProviderError) : (v.onFailure e).1.input = v.input := by
  rw [onFailure]
  split
  · exact input_requireReauth v
  · rfl

/-- At most a hint is given when an end of the timeline is reached. -/
theorem input_performed (v : Viewer) (a : KeyAction) :
    ∃ status, (v.performed a).input = { v.input with status } := by
  by_cases ha : a = .togglePause
  · rw [ha]
    show ∃ _, v.togglePause.input = _
    rw [togglePause]
    split
    · exact ⟨_, rfl⟩
    · split <;> exact ⟨_, rfl⟩
  · obtain ⟨source, status, quitting, -, hperformed⟩ := exists_performed v ha
    exact ⟨status, by rw [hperformed]⟩

/-- The keyboard after something has happened to a viewer, but for a hint. -/
def keyboard (v : Viewer) : ViewerOp → InputState
  | .key now k => (v.input.handleKey now v.nav k).input
  | _ => v.input

theorem isLive_keyboard (v : Viewer) (op : ViewerOp) : (v.keyboard op).isLive = v.input.isLive := by
  cases op with
  | key now k => exact isLive_handleKey v.nav k now v.input
  | _ => rfl

theorem inOrder_keyboard (h : v.input.InOrder) (op : ViewerOp) : (v.keyboard op).InOrder := by
  cases op with
  | key now k => exact h.handleKey v.nav k now
  | _ => exact h

/-- Work leaves the keyboard alone, unless a key is pressed, or gives a hint. -/
theorem input_work (v : Viewer) (op : ViewerOp) :
    ∃ status, (v.work op).input = { v.keyboard op with status } := by
  cases op with
  | event e =>
    cases e with
    | snapshot s =>
      rw [work]
      split
      · exact ⟨_, rfl⟩
      · exact ⟨_, input_accept _ _⟩
    | transient e => exact ⟨_, input_onTransient v e⟩
    | failed e => exact ⟨_, input_onFailure v e⟩
  | key now k => exact input_performed _ _
  | report n s => exact ⟨_, rfl⟩
  | rearrange change => exact ⟨_, rfl⟩

/-- Saving the address concerns neither the keyboard nor the feed. -/
theorem apply_eq_work (v : Viewer) (fs : Files) (op : ViewerOp) :
    (apply (v, fs) op).1.input = (v.work op).input ∧
      (apply (v, fs) op).1.source = (v.work op).source := by
  cases hs : v.saves op with
  | false =>
    rw [(apply_of_not_saves hs).1]
    exact ⟨rfl, rfl⟩
  | true =>
    rw [(apply_of_saves hs).1, viewer_persist]
    exact ⟨rfl, rfl⟩

/-! ## The keyboard and the feed -/

/-- The keyboard is in order and knows what kind of feed there is. -/
structure Attuned (v : Viewer) : Prop where
  order : v.input.InOrder
  isLive : v.input.isLive = v.source.isLive

namespace Attuned

theorem start (nav : Navigator) (source : Source) (session : Session) (addressFile : Option Path) :
    Attuned (Viewer.start nav source session addressFile) :=
  ⟨InOrder.start source.isLive, rfl⟩

/-- Whatever happens, the keyboard stays attuned to the feed. -/
theorem apply (h : Attuned v) (fs : Files) (op : ViewerOp) :
    Attuned (Viewer.apply (v, fs) op).1 := by
  obtain ⟨hinput, hsource⟩ := apply_eq_work v fs op
  obtain ⟨status, hwork⟩ := input_work v op
  rw [hwork] at hinput
  constructor
  · rw [hinput]
    exact (inOrder_keyboard h.order op).withStatus status
  · calc (Viewer.apply (v, fs) op).1.input.isLive
        = (v.keyboard op).isLive := by rw [hinput]
      _ = v.input.isLive := isLive_keyboard v op
      _ = v.source.isLive := h.isLive
      _ = (v.work op).source.isLive := (step_work v op).isLive.symm
      _ = (Viewer.apply (v, fs) op).1.source.isLive := by rw [hsource]

theorem run {state : Viewer × Files} (h : Attuned state.1) (ops : List ViewerOp) :
    Attuned (Viewer.run state ops).1 := by
  induction ops generalizing state with
  | nil => exact h
  | cons op ops ih => exact ih (h.apply state.2 op)

/-- A viewer with an attuned keyboard does what a key asks for. -/
theorem obeys (h : Attuned v) (now : Int) (k : Key) :
    Obeys { v with
      input := (v.input.handleKey now v.nav k).input
      nav := (v.input.handleKey now v.nav k).nav } (v.input.handleKey now v.nav k).action := by
  refine obeys_of_suits ?_
  rw [← h.isLive]
  exact h.order.suits v.nav k now

end Attuned

/-- A keyboard for a feed of some kind stays in order, stays one for that kind, and asks for what
suits it.  In a viewer that kind is the one of the feed, whatever happens, and the viewer does what
a key asks for. -/
theorem keys_in_order :
    (∀ (isLive : Bool) (n : Navigator) (ops : List KeyboardOp),
      let i := (Keyboard.run ({ isLive }, n) ops).1
      i.InOrder ∧ i.isLive = isLive ∧
        ∀ now m k, (i.handleKey now m k).action.suits isLive = true) ∧
    ∀ (nav : Navigator) (source : Source) (session : Session) (addressFile : Option Path)
        (fs : Files) (ops : List ViewerOp),
      let v := (run (start nav source session addressFile, fs) ops).1
      v.input.InOrder ∧ v.input.isLive = v.source.isLive ∧
        ∀ now k, let r := v.input.handleKey now v.nav k
          Obeys { v with input := r.input, nav := r.nav } r.action := by
  constructor
  · intro isLive n ops i
    obtain ⟨horder, hlive⟩ := Keyboard.inOrder_run ({ isLive }, n) (InOrder.start isLive) ops
    refine ⟨horder, hlive, fun now m k => ?_⟩
    rw [← show i.isLive = isLive from hlive]
    exact horder.suits m k now
  · intro nav source session addressFile fs ops v
    have hattuned : Attuned v := (Attuned.start nav source session addressFile).run ops
    exact ⟨hattuned.order, hattuned.isLive, hattuned.obeys⟩

end Viewer

end SnapshotViewer
