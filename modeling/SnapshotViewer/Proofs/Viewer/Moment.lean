import SnapshotViewer.Proofs.Viewer.Step

/-!
# The moment in the address

Whether an address holds a moment, and which one, is decided in three places: the valve of the
feed knows whether it is shut, the store holds the snapshot that is shown, and the navigator has
the address.  A live feed that is open shows what happens now, so the address names no moment.
While the feed is paused, and in a history from the first snapshot on, the address names the
moment of the snapshot that is shown.  Until then a history keeps the moment that it started from.

Keys, drill-downs and changes of tab come in between, but of all that can be typed nothing writes a
moment (`timestamp_typed`); only snapshots and the pausing of a feed do.

## Main definitions

* `moment` — the moment that the address should name.
* `Timed` — the source is of the kind that the catalog says, and the address names that moment.
* `NamesMoment` — what this means in either mode.

## Main statements

* `Timed.step`, `Timed.run` — it stays so, whatever happens.
* `names_moment` — which moment that is in either mode.
-/

namespace SnapshotViewer

/-! ## Writes of a moment -/

theorem Shown.timestamp_writeAll {s : Shown} {ws : List Write}
    (h : ∀ w ∈ ws, ∀ t, w ≠ .timestamp t) :
    (s.writeAll ws).address.timestamp = s.address.timestamp := by
  induction ws generalizing s with
  | nil => rfl
  | cons w ws ih =>
    rw [Shown.writeAll_cons, ih fun v hv => h v (List.mem_cons_of_mem w hv)]
    cases w with
    | timestamp t => exact absurd rfl (h _ List.mem_cons_self t)
    | _ => rfl

namespace Navigator
variable (n : Navigator) {x : NavigatorOp}

/-- No operation that can be typed writes a moment. -/
theorem ne_timestamp_of_mem_writes (hx : x.isTyped = true) {w : Write} (hw : w ∈ n.writes x)
    (t : Option Int) : w ≠ .timestamp t := by
  rintro rfl
  cases x with
  | changeTab tab => simp [writes] at hw
  | cycleView =>
    cases hnext : n.nextView? with
    | none => simp [writes, hnext] at hw
    | some next => simp [writes, hnext] at hw
  | changeFilterText text => simp [writes] at hw
  | drillDownSelected => rcases eq_of_mem_entries hw with ⟨k, h⟩ | h <;> cases h
  | changeView view => cases hx
  | requestDrillDown d value source r => cases hx
  | setTimestamp t => cases hx
  | onSnapshot s => cases hx
  | _ => exact absurd hw List.not_mem_nil

theorem timestamp_typed (hx : x.isTyped = true) :
    (n.apply x).address.timestamp = n.address.timestamp := by
  have hshown : (n.apply x).address = (n.shown.writeAll (n.writes x)).address :=
    congrArg Shown.address (shown_apply n x)
  rw [hshown]
  exact Shown.timestamp_writeAll fun w hw => ne_timestamp_of_mem_writes n hx hw

/-- A snapshot writes its moment in history, and nothing of the kind elsewhere. -/
theorem timestamp_onSnapshot (s : Snapshot) : (n.onSnapshot s).address.timestamp =
    match n.catalog.mode with
    | .history => nonZero s.timestamp
    | .live => n.address.timestamp := by
  have hresets : ∀ f, ∀ w ∈ resets f, ∀ t, w ≠ .timestamp t := by
    rintro f w hw t rfl
    cases eq_of_mem_resets hw
  rw [(wrote_onSnapshot n s).address, writes, Shown.writeAll_append,
    Shown.timestamp_writeAll (hresets _), stamps]
  cases n.catalog.mode with
  | history => rfl
  | live => rfl

end Navigator

namespace Viewer
variable {seed : Address} {v w : Viewer} {fs : Files} {op : ViewerOp}

/-! ## The moment that the address should name -/

/-- The moment that the address should name: none while a live feed is open, else that of the
snapshot that is shown; before there is one in a history, the moment that it started from. -/
def moment (seed : Address) (v : Viewer) : Option Int :=
  match v.source.valve? with
  | some valve =>
    if valve.paused then v.store.current.bind fun s => nonZero s.timestamp else none
  | none =>
    match v.store.current with
    | some s => nonZero s.timestamp
    | none => seed.timestamp

/-- The source is of the kind that the catalog says, and the address names the moment that it
should. -/
structure Timed (mode : Mode) (seed : Address) (v : Viewer) : Prop where
  catalog : v.nav.catalog.mode = mode
  kind : v.source.valve?.isSome = true ↔ mode = .live
  timestamp : v.nav.address.timestamp = v.moment seed

theorem moment_of_open (h : v.isPaused = false) (hlive : v.source.valve?.isSome = true) :
    v.moment seed = none := by
  obtain ⟨x, hx⟩ := Option.isSome_iff_exists.1 hlive
  have hopen : x.paused = false := by simpa [isPaused, Source.isPaused_eq, hx] using h
  simp [moment, hx, hopen]

theorem moment_of_paused (h : v.isPaused = true) :
    v.moment seed = v.store.current.bind fun s => nonZero s.timestamp := by
  cases hx : v.source.valve? with
  | none => simp [isPaused, Source.isPaused_eq, hx] at h
  | some x =>
    have hshut : x.paused = true := by simpa [isPaused, Source.isPaused_eq, hx] using h
    simp [moment, hx, hshut]

theorem moment_of_history (h : v.source.valve? = none) : v.moment seed =
    match v.store.current with
    | some s => nonZero s.timestamp
    | none => seed.timestamp := by
  simp only [moment, h]

namespace Timed
variable {mode : Mode}

theorem valve?_eq_none (h : Timed mode seed v) (hmode : mode = .history) :
    v.source.valve? = none := by
  cases hvalve : v.source.valve? with
  | none => rfl
  | some x =>
    have hlive : mode = .live := h.kind.1 (by rw [hvalve]; rfl)
    rw [hmode] at hlive
    cases hlive

/-- Nothing is concerned that the moment depends on. -/
theorem kept (h : Timed mode seed v) (hk : Kept v w) : Timed mode seed w where
  catalog := by rw [hk.nav]; exact h.catalog
  kind := by rw [hk.valve]; exact h.kind
  timestamp := by rw [hk.nav, h.timestamp, moment, moment, hk.valve, hk.current]

/-- A snapshot that meets the valve does not shut or open it. -/
theorem pass (h : Timed mode seed v) (s : Snapshot) :
    Timed mode seed { v with source := (v.source.pass s).1 } where
  catalog := h.catalog
  kind := by
    rw [Source.valve?_pass, Option.isSome_map]
    exact h.kind
  timestamp := by
    rw [h.timestamp, moment, moment, Source.valve?_pass]
    cases v.source.valve? with
    | none => rfl
    | some x => simp

/-- A command leaves the moment alone. -/
theorem command (h : Timed mode seed v) {x : NavigatorOp} (hx : x.isTyped = true) :
    Timed mode seed { v with nav := v.nav.apply x } where
  catalog := by
    rw [Navigator.catalog_apply]
    exact h.catalog
  kind := h.kind
  timestamp := by
    rw [Navigator.timestamp_typed v.nav hx]
    exact h.timestamp

/-- A snapshot that is shown changes the moment in history only. -/
theorem present (h : Timed mode seed v) (hopen : v.isPaused = false)
    (hclosed : v.store.closed = false) (s : Snapshot) :
    Timed mode seed { v with store := v.store.replace s, nav := v.nav.onSnapshot s } := by
  generalize hw : { v with store := v.store.replace s, nav := v.nav.onSnapshot s } = w
  have hnav : w.nav = v.nav.onSnapshot s := by rw [← hw]
  have hsource : w.source = v.source := by rw [← hw]
  have hstore : w.store.current = some s := by simp [← hw, Store.replace, hclosed]
  have hcatalog : w.nav.catalog = v.nav.catalog := by
    rw [hnav]
    exact Navigator.catalog_apply v.nav (.onSnapshot s)
  refine ⟨by rw [hcatalog]; exact h.catalog, by rw [hsource]; exact h.kind, ?_⟩
  rw [hnav, Navigator.timestamp_onSnapshot, h.catalog]
  cases mode with
  | live =>
    have hlive : v.source.valve?.isSome = true := h.kind.2 rfl
    have hstill : w.isPaused = false := by rw [isPaused, hsource]; exact hopen
    dsimp only
    rw [h.timestamp, moment_of_open hopen hlive,
      moment_of_open hstill (by rw [hsource]; exact hlive)]
  | history =>
    have hvalve : w.source.valve? = none := by rw [hsource]; exact h.valve?_eq_none rfl
    rw [moment_of_history hvalve, hstore]

/-- Shutting the valve puts the moment of the snapshot that is shown into the address, and opening
it takes the moment out. -/
theorem pause {f : LiveFeed} (h : Timed mode seed v) (hsource : v.source = .live f) :
    Timed mode seed
      { v with
        source := .live f.pause
        nav := v.nav.setTimestamp (v.store.current.map (·.timestamp)) } where
  catalog := h.catalog
  kind := ⟨fun _ => h.kind.1 (by rw [hsource]; rfl), fun _ => rfl⟩
  timestamp := by
    rw [moment_of_paused rfl, Navigator.address_setTimestamp, Option.bind_map]
    rfl

theorem resume {f : LiveFeed} (h : Timed mode seed v) (hsource : v.source = .live f) :
    Timed mode seed { v with source := .live f.resume, nav := v.nav.setTimestamp none } where
  catalog := h.catalog
  kind := ⟨fun _ => h.kind.1 (by rw [hsource]; rfl), fun _ => rfl⟩
  timestamp := (moment_of_open rfl rfl).symm

/-! ## Steps and runs -/

theorem step (h : Timed mode seed v) (hstep : Step v op w) : Timed mode seed w := by
  cases hstep with
  | keep hevent hreport hk => exact h.kept hk
  | hold hpaused hk => exact (h.pass _).kept hk
  | refuse hopen hclosed hk => exact h.kept hk
  | present hopen hclosed hk => exact (h.present hopen hclosed _).kept hk
  | @feed n s w hk =>
    cases harrival : v.source.arrival? n s with
    | none =>
      rw [harrival] at hk
      exact h.kept hk
    | some x =>
      rw [harrival] at hk
      exact (h.pass x).kept hk
  | command x hx hk => exact (h.command hx).kept hk
  | pause hsource hopen hk => exact (h.pause hsource).kept hk
  | resume hsource hpaused hk => exact (h.resume hsource).kept hk

theorem apply (h : Timed mode seed v) (fs : Files) (op : ViewerOp) :
    Timed mode seed (Viewer.apply (v, fs) op).1 := by
  obtain ⟨w, hstep, hviewer⟩ := viewer_apply v fs op
  have hw : Timed mode seed w := h.step hstep
  rw [hviewer]
  split
  · rw [Navigator.apply, Navigator.takeUpdate_eq]
    exact ⟨hw.catalog, hw.kind, hw.timestamp⟩
  · exact hw

theorem run {state : Viewer × Files} (h : Timed mode seed state.1) (ops : List ViewerOp) :
    Timed mode seed (Viewer.run state ops).1 := by
  induction ops generalizing state with
  | nil => exact h
  | cons op ops ih => exact ih (h.apply state.2 op)

theorem start {catalog : Catalog} {source : Source}
    (h : source.isLive = true ↔ catalog.mode = .live) (session : Session)
    (addressFile : Option Path) : Timed catalog.mode seed
      (Viewer.start (Navigator.start catalog seed) source session addressFile) := by
  have hkind : source.valve?.isSome = source.isLive := by cases source <;> rfl
  refine ⟨rfl, by rw [← h, ← hkind]; rfl, ?_⟩
  cases source with
  | live f =>
    have hmode : catalog.mode = .live := h.1 rfl
    simp [Viewer.start, Navigator.start, hmode, moment, Source.valve?]
  | history f =>
    have hmode : catalog.mode = .history := by
      cases hm : catalog.mode with
      | live => cases h.2 hm
      | history => rfl
    simp [Viewer.start, Navigator.start, hmode, moment, Source.valve?]

end Timed

/-- Which moment the address of a viewer names in either mode. -/
structure NamesMoment (mode : Mode) (seed : Address) (v : Viewer) : Prop where
  /-- What happens now has no moment. -/
  now : mode = .live → v.isPaused = false → v.nav.address.timestamp = none
  /-- A pause has the moment of the snapshot that it keeps. -/
  paused : mode = .live → v.isPaused = true →
    v.nav.address.timestamp = v.store.current.bind fun s => nonZero s.timestamp
  /-- In history the address has the moment of the snapshot that is shown. -/
  shown : mode = .history → ∀ s, v.store.current = some s →
    v.nav.address.timestamp = nonZero s.timestamp
  /-- Before there is one, it has the moment that the history started from. -/
  seeded : mode = .history → v.store.current = none →
    v.nav.address.timestamp = seed.timestamp

/-- If the source is of the kind that the catalog says, the address names the right moment behind
every run. -/
theorem names_moment (catalog : Catalog) (seed : Address) (source : Source) (session : Session)
    (addressFile : Option Path) (fs : Files) (ops : List ViewerOp)
    (h : source.isLive = true ↔ catalog.mode = .live) :
    NamesMoment catalog.mode seed
      (run (start (Navigator.start catalog seed) source session addressFile, fs) ops).1 := by
  have htimed : Timed catalog.mode seed
      (run (start (Navigator.start catalog seed) source session addressFile, fs) ops).1 :=
    (Timed.start h session addressFile).run ops
  generalize (run (start (Navigator.start catalog seed) source session addressFile, fs) ops).1 = v
    at htimed
  refine ⟨fun hmode hopen => ?_, fun hmode hpaused => ?_, fun hmode s hs => ?_,
    fun hmode hnone => ?_⟩
  · exact htimed.timestamp.trans (moment_of_open hopen (htimed.kind.2 hmode))
  · exact htimed.timestamp.trans (moment_of_paused hpaused)
  · rw [htimed.timestamp, moment_of_history (htimed.valve?_eq_none hmode), hs]
  · rw [htimed.timestamp, moment_of_history (htimed.valve?_eq_none hmode), hnone]

/-- A live feed is paused, a snapshot is held back and a tab is chosen; a history that started from
a moment goes on to a snapshot of another one. -/
theorem names_moment_of_pause :
    let live : Source := .live {}
    let history : Source := .history {}
    let press (c : Char) : ViewerOp := .key 0 { code := .char c }
    let shows (t : Int) : ViewerOp := .event (.snapshot { timestamp := t })
    let seed := Address.decode "tab=pgs&timestamp=500"
    let begin (mode : Mode) (x : Source) : Viewer × Files :=
      (start (Navigator.start { mode } seed) x { baseUrl := "" } none, {})
    let pausing := [shows 1000, press ' ', shows 1010, press '2']
    ((live.isLive = true ↔ Mode.live = .live) ∧
        (run (begin .live live) pausing).1.nav.address.timestamp = some 1000 ∧
        NamesMoment .live seed (run (begin .live live) pausing).1) ∧
      (history.isLive = true ↔ Mode.history = .live) ∧
        (run (begin .history history) [press '2']).1.nav.address.timestamp = some 500 ∧
        NamesMoment .history seed (run (begin .history history) [press '2', shows 1000]).1 := by
  intro live history press shows seed begin pausing
  have hlive : live.isLive = true ↔ Mode.live = .live := by simp [live, Source.isLive]
  have hhistory : history.isLive = true ↔ Mode.history = .live := by simp [history, Source.isLive]
  exact ⟨⟨hlive, by decide +kernel, names_moment { mode := .live } seed _ _ _ _ _ hlive⟩,
    hhistory, by decide +kernel, names_moment { mode := .history } seed _ _ _ _ _ hhistory⟩

end Viewer

end SnapshotViewer
