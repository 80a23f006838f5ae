import SnapshotViewer.Proofs.Run
import SnapshotViewer.Proofs.Viewer.Step

/-!
# What a step of a client can do

Whatever happens to a client happens to its viewer (`viewer_apply`), so what is known of a viewer
is known of a client.  The inbox is left to the client: it loses the event that is handled, and it
gains what a report makes the feed send.  The handlers send nothing.

## Main definitions

* `viewerOp?` — what happens to the viewer.
* `shown?`, `met?` — the snapshot that is shown, and the one that meets the valve.

## Main statements

* `shown_apply`, `valve_apply` — what a step does to what is shown, and to the valve.
* `waiting_apply` — what a step does to the inbox.
-/

namespace SnapshotViewer

/-! ## Handlers send nothing -/

theorem HistoryFeed.events_jump (f : HistoryFeed) (timestamp : Int)
    (direction : Option Direction) : Effect.events (f.jump timestamp direction).2 = [] := by
  unfold jump
  split
  · rfl
  · rfl

namespace Viewer
variable (v : Viewer) (fs : Files)

theorem events_requireReauth : Effect.events v.requireReauth.2 = [] := by
  unfold requireReauth
  split
  · rfl
  · cases v.source with
    | live f => exact f.events_stop
    | history f => rfl

theorem events_onEvent (e : FeedEvent) : Effect.events (v.onEvent fs e).effects = [] := by
  cases e with
  | snapshot s =>
    dsimp only [onEvent]
    split
    · rfl
    · rfl
  | transient e =>
    show Effect.events (v.onTransient e).2 = []
    unfold onTransient
    split
    · exact v.events_requireReauth
    · rfl
  | failed e =>
    show Effect.events (v.onFailure e).2 = []
    unfold onFailure
    split
    · exact v.events_requireReauth
    · rfl

theorem events_moveInTime {v : Viewer} {step : HistoryStep} {result : Viewer × List Effect}
    (h : v.moveInTime step = .ok result) : Effect.events result.2 = [] := by
  rcases v.moveInTime_cases step with hmove | ⟨f, s, -, -, hmove⟩
  · obtain rfl := Except.ok.inj (hmove.symm.trans h)
    rfl
  · obtain ⟨move?, hstep, rfl⟩ := exists_of_map_eq_ok (hmove.symm.trans h)
    cases move? with
    | none => rfl
    | some move =>
      obtain ⟨t, d, -, rfl⟩ := HistoryFeed.exists_of_step? hstep
      exact f.events_jump t (some d)

theorem events_perform {v : Viewer} {a : KeyAction} {result : Viewer × List Effect}
    (h : v.perform a = .ok result) : Effect.events result.2 = [] := by
  cases a with
  | historyStep step => exact events_moveInTime h
  | jumpTo timestamp =>
    obtain rfl : v.jumpTo timestamp = result := Except.ok.inj h
    unfold jumpTo
    split
    · exact HistoryFeed.events_jump _ timestamp (some .floor)
    · rfl
  | _ =>
    obtain rfl := Except.ok.inj h
    rfl

theorem events_onKey (now : Int) (k : Key) : Effect.events (onKey now v fs k).effects = [] := by
  unfold onKey
  split
  · next h => exact events_perform h
  · rfl

end Viewer

namespace Client
variable {c : Client} {op : ClientOp} {a : Arrival}

/-! ## The viewer -/

/-- What happens to the viewer. -/
def viewerOp? (c : Client) : ClientOp → Option ViewerOp
  | .report n s => some (.report n s)
  | .handle => c.inbox.head?.map fun sent => .event sent.2
  | .key now k => some (.key now k)

/-- What happens to a client happens to its viewer, unless there is no event to be handled. -/
theorem viewer_apply (c : Client) (op : ClientOp) :
    c.viewerOp? op = none ∧ c.apply op = c ∨
      ∃ x, c.viewerOp? op = some x ∧
        (c.apply op).viewer = (Viewer.apply (c.viewer, c.files) x).1 := by
  cases op with
  | report n s => exact .inr ⟨.report n s, rfl, rfl⟩
  | key now k => exact .inr ⟨.key now k, rfl, rfl⟩
  | handle =>
    unfold viewerOp? apply
    cases c.inbox with
    | nil => exact .inl ⟨rfl, rfl⟩
    | cons sent rest => exact .inr ⟨.event sent.2, rfl, rfl⟩

/-- The snapshot that is shown. -/
def shown? (c : Client) (op : ClientOp) : Option Snapshot :=
  (c.viewerOp? op).bind c.viewer.shows?

/-- The snapshot that meets the valve: one that comes in or one that the viewer takes out of the
inbox. -/
def met? (c : Client) (op : ClientOp) : Option Arrival := (c.arrival? op).or (c.taken? op)

theorem shown?_of_paused (h : c.viewer.isPaused = true) (op : ClientOp) : c.shown? op = none := by
  unfold shown?
  cases c.viewerOp? op with
  | none => rfl
  | some x => exact Viewer.shows?_of_paused h x

/-- A step in which the valve is shut, or was shut, shows nothing. -/
theorem shown?_of_paused_after (h : (c.apply op).viewer.isPaused = true) :
    c.shown? op = none := by
  rcases c.viewer_apply op with ⟨hop, -⟩ | ⟨x, hop, hviewer⟩
  · rw [shown?, hop]
    rfl
  · obtain ⟨w, hstep, hw⟩ := Viewer.viewer_apply c.viewer c.files x
    have hpaused : w.isPaused = true := by
      rw [hviewer, hw] at h
      split at h
      · exact h
      · exact h
    rw [shown?, hop, Option.bind_some]
    cases hshow : c.viewer.shows? x with
    | none => rfl
    | some s =>
      rw [hstep.isPaused_of_shows (by simp [hshow])] at hpaused
      cases hpaused

/-- The store and the navigator are led to the snapshot that is shown, and the store counts it. -/
theorem shown_apply (c : Client) (op : ClientOp) :
    (c.apply op).viewer.store.current = (c.shown? op).or c.viewer.store.current ∧
      (c.apply op).viewer.store.generation =
        c.viewer.store.generation + (c.shown? op).toList.length ∧
      (c.apply op).viewer.nav.current = (c.shown? op).or c.viewer.nav.current := by
  unfold shown?
  rcases c.viewer_apply op with ⟨hop, happly⟩ | ⟨x, hop, hviewer⟩
  · rw [hop, happly]
    exact ⟨rfl, rfl, rfl⟩
  · obtain ⟨hcurrent, hgeneration, -⟩ := Viewer.store_apply c.viewer c.files x
    rw [hop, hviewer]
    exact ⟨hcurrent, hgeneration, Viewer.nav_current_apply c.viewer c.files x⟩

theorem closed_apply (c : Client) (op : ClientOp) :
    (c.apply op).viewer.store.closed = c.viewer.store.closed := by
  rcases c.viewer_apply op with ⟨-, happly⟩ | ⟨x, -, hviewer⟩
  · rw [happly]
  · rw [hviewer, (Viewer.store_apply c.viewer c.files x).2.2]

/-- What is taken out of the inbox while the valve is open is shown. -/
theorem shown?_of_taken (hopen : c.viewer.isPaused = false)
    (hclosed : c.viewer.store.closed = false) (h : c.taken? op = some a) :
    c.shown? op = some a.snapshot := by
  cases op with
  | report n s => cases h
  | key now k => cases h
  | handle =>
    unfold taken? at h
    unfold shown? viewerOp?
    cases hinbox : c.inbox with
    | nil =>
      rw [hinbox] at h
      cases h
    | cons sent rest =>
      obtain ⟨n, e⟩ := sent
      rw [hinbox] at h
      cases e with
      | snapshot s =>
        rw [← Option.some.inj h]
        exact Viewer.shows?_of_open hopen hclosed
      | transient e => cases h
      | failed e => cases h

/-- What meets the valve of the client meets that of the viewer. -/
theorem meets?_eq (c : Client) (op : ClientOp) :
    (c.viewerOp? op).bind c.viewer.meets? = (c.met? op).map (·.snapshot) := by
  unfold met?
  cases op with
  | report n s =>
    simp [viewerOp?, Viewer.meets?, arrival?, taken?, Function.comp_def]
  | key now k => rfl
  | handle =>
    unfold viewerOp? taken?
    cases c.inbox with
    | nil => rfl
    | cons sent rest =>
      obtain ⟨n, e⟩ := sent
      cases e <;> rfl

/-- A step lets the valve hold back or pass what meets it, or the user shuts or opens it. -/
theorem valve_apply {x : Valve} (hx : c.viewer.source.valve? = some x) (op : ClientOp) :
    (c.apply op).viewer.source.valve? =
        some (((c.met? op).map fun a => (x.pass a.snapshot).1).getD x) ∨
      c.met? op = none ∧ x.paused = false ∧
        (c.apply op).viewer.source.valve? = some x.pause ∨
      c.met? op = none ∧ x.paused = true ∧
        (c.apply op).viewer.source.valve? = some x.resume := by
  have hmeets := c.meets?_eq op
  rcases c.viewer_apply op with ⟨hop, happly⟩ | ⟨y, hop, hviewer⟩
  · have hmet : c.met? op = none := by simpa [hop] using hmeets.symm
    rw [happly, hmet]
    exact .inl hx
  · obtain ⟨w, hstep, hw⟩ := Viewer.viewer_apply c.viewer c.files y
    have hsource : (c.apply op).viewer.source = w.source := by
      rw [hviewer, hw]
      split
      · rfl
      · rfl
    rw [hop, Option.bind_some] at hmeets
    rw [hsource]
    have hvalve := hstep.valve hx
    rw [hmeets, Option.map_map, Option.map_eq_none_iff] at hvalve
    exact hvalve

/-- A live feed stays one. -/
theorem live_apply (h : c.viewer.source.valve? ≠ none) (op : ClientOp) :
    (c.apply op).viewer.source.valve? ≠ none := by
  obtain ⟨x, hx⟩ := Option.ne_none_iff_exists'.1 h
  rcases c.valve_apply hx op with hnext | ⟨-, -, hnext⟩ | ⟨-, -, hnext⟩
  · simp [hnext]
  · simp [hnext]
  · simp [hnext]

/-! ## The inbox -/

/-- What comes in is numbered by its report. -/
theorem number_of_arrival (h : c.arrival? op = some a) :
    a.number = c.reports + 1 ∧ (c.apply op).reports = c.reports + 1 := by
  cases op with
  | report n s =>
    obtain ⟨x, -, hx⟩ := Option.map_eq_some_iff.1 h
    exact ⟨by rw [← hx], rfl⟩
  | handle => cases h
  | key now k => cases h

theorem reports_le_apply (c : Client) (op : ClientOp) : c.reports ≤ (c.apply op).reports := by
  cases op with
  | report n s => exact Nat.le_succ c.reports
  | key now k => exact Nat.le_refl c.reports
  | handle =>
    dsimp only [apply]
    split
    · exact Nat.le_refl c.reports
    · exact Nat.le_refl c.reports

theorem waiting_handle (c : Client) :
    (c.taken? .handle).toList ++ (c.apply .handle).waiting = c.waiting := by
  unfold taken? waiting apply
  cases hinbox : c.inbox with
  | nil => simp [hinbox]
  | cons sent rest =>
    simp only [handled, send, Viewer.events_onEvent, List.map_nil, List.append_nil,
      List.head?_cons, Option.bind_some]
    cases hs : Arrival.ofEvent? sent with
    | none => rw [List.filterMap_cons_none hs]; rfl
    | some a => rw [List.filterMap_cons_some hs]; rfl

theorem waiting_key (c : Client) (now : Int) (k : Key) :
    (c.apply (.key now k)).waiting = c.waiting := by
  simp [waiting, apply, handled, send, Viewer.events_onKey]

/-- What a report makes the feed send comes to wait under the number of the report. -/
theorem waiting_report (c : Client) (n : Nat) (s : Signal) :
    (c.apply (.report n s)).waiting =
      c.waiting ++ ((Effect.events (c.viewer.receive n s).2).map (c.reports + 1, ·)).filterMap
        Arrival.ofEvent? :=
  List.filterMap_append

end Client

end SnapshotViewer
