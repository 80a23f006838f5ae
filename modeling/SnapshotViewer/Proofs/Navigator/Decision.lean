import SnapshotViewer.Proofs.Navigator.Coherence

/-!
# How drill-downs are decided

A drill-down that is accepted looks for its target at once.  If the target is not there, the first
snapshot behind it decides it for good.  Until then it can be superseded by another drill-down,
or be given up by leaving its tab, and then nothing decides it any more.  So a mark that an
arriving snapshot sets can be traced back to the one drill-down that it answers.

The argument follows the drill-down that waits along a run.  A step either starts it or leaves it
alone (`pending_of_step`).  Hence what waits at the end of a run has waited all along, or was
asked for on the way and has not been disturbed since (`pending_run`).  What a snapshot then marks
can only be what was waited for (`marked_onSnapshot`).

## Main definitions

* `Undisturbed`, `Unasked` — runs without a concern for the drill-down that waits, or without a
  new one.
* `AskedIn` — a drill-down that still waits at the end of a run.
* `DecidesOnce` — the drill-downs of all runs are decided once.

## Main statements

* `drill_downs_decided_once` — the drill-downs of a fresh navigator are decided once.
-/

namespace SnapshotViewer.Navigator

/-- No snapshot arrives, the tab is not left, and no drill-down is accepted. -/
def Undisturbed (n : Navigator) (ops : List NavigatorOp) : Prop :=
  Along (fun m op => m.disturbs op = false) n ops

/-- No drill-down is accepted. -/
def Unasked (n : Navigator) (ops : List NavigatorOp) : Prop :=
  Along (fun m op => m.accepts op = false) n ops

/-- In a run from `n` the drill-down `p` is asked for and accepted, its target is not in the
snapshot that is shown then, and nothing disturbs it up to the end of the run. -/
def AskedIn (n : Navigator) (ops : List NavigatorOp) (p : Pending) : Prop :=
  ∃ earlier op between, ops = earlier ++ op :: between ∧
    (n.run earlier).accepts op = true ∧ (n.run earlier).asked? op = some p ∧
    (∀ s, (n.run earlier).current = some s → ∀ r ∈ s.rows p.tab, p.fits r = false) ∧
    Undisturbed ((n.run earlier).apply op) between

/-- How the drill-downs of the runs from a navigator are decided. -/
structure DecidesOnce (n : Navigator) : Prop where
  /-- A mark behind a snapshot was there before, with nothing waiting, or it answers a drill-down
  that has waited for that snapshot, by the first row that fits. -/
  answered : ∀ ops s id, ((n.run ops).onSnapshot s).flash = some id →
    (n.run ops).pending = none ∧ (n.run ops).flash = some id ∨
      ∃ p front r back, AskedIn n ops p ∧ s.rows p.tab = front ++ r :: back ∧
        p.fits r = true ∧ (∀ x ∈ front, p.fits x = false) ∧ r.id = id ∧
        ((n.run ops).onSnapshot s).state.tab = p.tab ∧
        ((n.run ops).onSnapshot s).state.selected = some id
  /-- A mark that is neither kept nor set by a snapshot is set by a drill-down that finds its
  target at once, and then nothing waits. -/
  eager : ∀ ops op id, ((n.run ops).apply op).flash = some id →
    (n.run ops).flash = some id ∧ (n.run ops).accepts op = false ∨
      (∃ s, op = .onSnapshot s) ∨
      ∃ p s r, (n.run ops).accepts op = true ∧ (n.run ops).asked? op = some p ∧
        (n.run ops).current = some s ∧ p.target? s = some r ∧ r.id = id ∧
        ((n.run ops).apply op).pending = none
  /-- A snapshot leaves nothing waiting. -/
  idle : ∀ ops s, ((n.run ops).onSnapshot s).pending = none
  /-- A drill-down that has found its target at once, or has been disturbed, say by leaving its
  tab, is not decided by any snapshot behind that. -/
  once : ∀ earlier op between s, (n.run earlier).accepts op = true →
    Unasked ((n.run earlier).apply op) between →
    ((n.run earlier).apply op).pending = none ∨
      ¬ Undisturbed ((n.run earlier).apply op) between →
    ((n.run (earlier ++ op :: between)).onSnapshot s).flash =
      (n.run (earlier ++ op :: between)).flash

variable {n : Navigator} {op : NavigatorOp} {p : Pending} {s : Snapshot}

/-! ## What a step does to the drill-down that waits -/

/-- What a drill-down finds at once is marked. -/
theorem flash_ask (n : Navigator) (p : Pending) :
    (n.ask p).flash = (n.current.bind p.target?).map (·.id) := by
  cases hr : n.current.bind p.target? with
  | some r => rw [ask_of_hit hr]; rfl
  | none => rw [ask_of_miss hr, flash_applyFilter]; rfl

/-- A drill-down waits exactly if it finds nothing at once. -/
theorem pending_ask (n : Navigator) (p : Pending) :
    (n.ask p).pending = if (n.current.bind p.target?).isSome then none else some p := by
  cases hr : n.current.bind p.target? with
  | some r => rw [ask_of_hit hr]; rfl
  | none => rw [ask_of_miss hr, pending_applyFilter]; rfl

/-- What waits behind a step was started by it and missed its target, or waited before. -/
theorem pending_of_step (h : n.Coherent) {m : Navigator} (hs : Step n op m)
    (hp : m.pending = some p) :
    n.disturbs op = false ∧ n.pending = some p ∨
      n.asked? op = some p ∧ n.current.bind p.target? = none := by
  cases hs with
  | quiet hd hm => exact .inl ⟨hd, hm.pending_eq ▸ hp⟩
  | leave ht =>
    rw [pending_enterTab, h.pending_leave ht] at hp
    cases hp
  | ask hq =>
    rw [pending_ask] at hp
    split at hp
    · cases hp
    · next hmiss =>
      obtain rfl : _ = p := Option.some.inj hp
      exact .inr ⟨hq, by simpa using hmiss⟩
  | arrive s => simp [pending_onSnapshot h s] at hp

/-- A snapshot marks the target of the drill-down that waits, and no other row. -/
theorem flash_onSnapshot (h : n.Coherent) (s : Snapshot) :
    (n.onSnapshot s).flash = ((n.pending.bind (·.target? s)).map (·.id)).or n.flash := by
  cases hp : n.pending with
  | none => rw [onSnapshot_of_idle hp, flash_receive]; rfl
  | some p =>
    rw [onSnapshot_of_pending hp (h.tab p hp), Option.bind_some]
    cases hr : p.target? s with
    | some r => rw [resolve_of_hit true (by simpa using hp) hr]; rfl
    | none =>
      rw [resolve_last_of_miss (by simpa using hp) hr]
      show ((n.receive s).applyFilter p.filter).flash = n.flash
      rw [flash_applyFilter, flash_receive]

/-- The target of a drill-down is the first row that fits. -/
theorem target?_eq_some_iff {r : Row} : p.target? s = some r ↔
    p.fits r = true ∧ ∃ front back, s.rows p.tab = front ++ r :: back ∧
      ∀ x ∈ front, p.fits x = false := by
  simp [Pending.target?, List.find?_eq_some_iff_append]

/-- A mark behind a snapshot was there before, or it is the first row that the drill-down which
waited was looking for. -/
theorem marked_onSnapshot (h : n.Coherent) {id : EntityId}
    (hflash : (n.onSnapshot s).flash = some id) :
    n.pending = none ∧ n.flash = some id ∨
      ∃ p front r back, n.pending = some p ∧ s.rows p.tab = front ++ r :: back ∧
        p.fits r = true ∧ (∀ x ∈ front, p.fits x = false) ∧ r.id = id ∧
        (n.onSnapshot s).state.tab = p.tab ∧ (n.onSnapshot s).state.selected = some id := by
  have hselected := ((h.onSnapshot s).flash id hflash).1
  rw [flash_onSnapshot h] at hflash
  cases hp : n.pending with
  | none => exact .inl ⟨rfl, by simpa [hp] using hflash⟩
  | some p =>
    cases hr : p.target? s with
    | none => simp [hp, hr, h.flash_eq_none hp] at hflash
    | some r =>
      obtain rfl : r.id = id := by simpa [hp, hr] using hflash
      obtain ⟨hfits, front, back, hrows, hfront⟩ := target?_eq_some_iff.1 hr
      refine .inr ⟨p, front, r, back, rfl, hrows, hfits, hfront, rfl, ?_, hselected⟩
      rw [tab_onSnapshot, h.tab p hp]

/-- A mark behind a step was there before, or a snapshot has arrived, or a drill-down has found
its target at once. -/
theorem marked_step {m : Navigator} (hs : Step n op m) {id : EntityId}
    (hflash : m.flash = some id) :
    n.flash = some id ∧ n.accepts op = false ∨ (∃ s, op = .onSnapshot s) ∨
      ∃ p s r, n.accepts op = true ∧ n.asked? op = some p ∧ n.current = some s ∧
        p.target? s = some r ∧ r.id = id ∧ m.pending = none := by
  cases hs with
  | quiet hd hm =>
    rcases hm.flash_eq with heq | heq
    · exact .inl ⟨heq ▸ hflash, accepts_of_undisturbed hd⟩
    · simp [heq] at hflash
  | leave ht => cases hflash
  | ask hp =>
    rw [flash_ask, Option.map_eq_some_iff] at hflash
    obtain ⟨r, hr, hid⟩ := hflash
    obtain ⟨s, hcurrent, htarget⟩ := Option.bind_eq_some_iff.1 hr
    refine .inr (.inr ⟨_, s, r, accepts_of_asked hp, hp, hcurrent, htarget, hid, ?_⟩)
    rw [pending_ask, hr]
    rfl
  | arrive s => exact .inr (.inl ⟨s, rfl⟩)

/-! ## Along a run -/

/-- What waits at the end of a run has waited all along, or was asked for on the way. -/
theorem pending_run (h : n.Coherent) {ops : List NavigatorOp}
    (hp : (n.run ops).pending = some p) :
    n.pending = some p ∧ Undisturbed n ops ∨ AskedIn n ops p := by
  -- What waits behind the first step is either asked for later on, or has waited since that step;
  -- in the second case the step decides.
  induction ops generalizing n with
  | nil => exact .inl ⟨hp, trivial⟩
  | cons op ops ih =>
    have hs := step_apply n op
    rcases ih (h.step hs) hp with ⟨hwait, hquiet⟩ | ⟨earlier, op', between, heq, hrest⟩
    · rcases pending_of_step h hs hwait with ⟨hd, hold⟩ | ⟨hasked, hmiss⟩
      · exact .inl ⟨hold, hd, hquiet⟩
      · refine .inr ⟨[], op, ops, rfl, accepts_of_asked hasked, hasked, ?_, hquiet⟩
        intro s hs
        exact fits_eq_false_of_miss hmiss hs
    · exact .inr ⟨op :: earlier, op', between, by rw [heq]; rfl, hrest⟩

/-- What waits in a run of a fresh navigator was asked for on the way. -/
theorem askedIn_of_pending {catalog : Catalog} {seed : Address} {ops : List NavigatorOp}
    (hp : ((start catalog seed).run ops).pending = some p) : AskedIn (start catalog seed) ops p := by
  rcases pending_run (coherent_start catalog seed) hp with ⟨hold, -⟩ | hasked
  · cases hold
  · exact hasked

/-- Nothing waits at the end of a run in which nothing is asked for, if nothing has waited at its
start or something has disturbed it. -/
theorem pending_run_of_unasked (h : n.Coherent) {ops : List NavigatorOp} (hu : n.Unasked ops)
    (hspent : n.pending = none ∨ ¬ n.Undisturbed ops) : (n.run ops).pending = none := by
  cases hp : (n.run ops).pending with
  | none => rfl
  | some p =>
    rcases pending_run h hp with ⟨hwait, hquiet⟩ | ⟨earlier, op, between, rfl, ha, -⟩
    · rcases hspent with hnone | hdisturbed
      · rw [hnone] at hwait
        cases hwait
      · exact absurd hquiet hdisturbed
    · have hrest := (along_append.1 hu).2.1
      simp [ha] at hrest

/-- From its start on, a navigator decides every drill-down at most once: at the request itself,
or when the first snapshot behind it arrives. -/
theorem drill_downs_decided_once (catalog : Catalog) (seed : Address) :
    (start catalog seed).DecidesOnce where
  answered := by
    intro ops s id hflash
    rcases marked_onSnapshot (coherent_run catalog seed ops) hflash with
      hkept | ⟨p, front, r, back, hp, hrest⟩
    · exact .inl hkept
    · exact .inr ⟨p, front, r, back, askedIn_of_pending hp, hrest⟩
  eager := fun ops op id hflash => marked_step (step_apply _ op) hflash
  idle := fun ops s => pending_onSnapshot (coherent_run catalog seed ops) s
  once := by
    intro earlier op between s _ hu hspent
    have hc := (coherent_run catalog seed earlier).step (step_apply _ op)
    have hidle : ((start catalog seed).run (earlier ++ op :: between)).pending = none := by
      rw [run_append, run_cons]
      exact pending_run_of_unasked hc hu hspent
    rw [flash_onSnapshot (coherent_run catalog seed _), hidle]
    rfl

/-- A drill-down that is asked for before the first snapshot leads to the second lock there. -/
example :
    let locks : Tables := { pgl := [⟨.int 41, []⟩, ⟨.int 42, []⟩, ⟨.int 42, [("mode", .null)]⟩] }
    let d : DrillDown := { target := "pgl", via := "pid" }
    let n := (start { mode := .live } {}).run
      [.requestDrillDown d (.int 42) .pga ⟨.int 42, []⟩, .changeFilterText "42",
        .onSnapshot { timestamp := 1000, tables := locks }]
    n.flash = some (.int 42) ∧ n.pending = none := by
  decide +kernel

end SnapshotViewer.Navigator
