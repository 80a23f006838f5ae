import SnapshotViewer.Proofs.Navigator.Step

/-!
# Coherent navigators

The parts of a navigator that have to do with the choice of a row fit together in every state
that it can come to.  Details are open only for a chosen row.  A row that a drill-down has led to
stays chosen, and nothing waits meanwhile.  A drill-down that waits is for the tab that is shown,
and its target is not in the snapshot that is shown.

`Coherent` says this of one state.  A drill-down establishes it whatever was there before
(`coherent_ask`), a snapshot leaves nothing waiting (`pending_onSnapshot`), and every other
operation keeps it.

## Main statements

* `Coherent.step` — every step keeps coherence.
* `coherent_of_reachable` — every state that can be come to is coherent, and an arriving snapshot
  never finds a drill-down that waits for another tab.
-/

namespace SnapshotViewer.Navigator

/-- The choice of a row, its details, the mark of a drill-down and the drill-down that waits fit
together. -/
structure Coherent (n : Navigator) : Prop where
  /-- Details are open only for a chosen row. -/
  detail : n.state.detailOpen = true → n.state.selected.isSome = true
  /-- The row that a drill-down has led to is chosen, and nothing waits. -/
  flash : ∀ id, n.flash = some id → n.state.selected = some id ∧ n.pending = none
  /-- A drill-down waits on its own tab. -/
  tab : ∀ p, n.pending = some p → p.tab = n.state.tab
  /-- A drill-down has waited since the snapshot that is shown, or since before the first. -/
  since : ∀ p, n.pending = some p → p.requestedAt = n.current.map (·.timestamp)
  /-- The snapshot that is shown has no row that a drill-down waits for. -/
  missed : ∀ p s, n.pending = some p → n.current = some s →
    ∀ r ∈ s.rows p.tab, p.fits r = false

variable {n : Navigator}

/-- With nothing waiting, only the choice has to fit. -/
theorem coherent_of_idle (hp : n.pending = none)
    (hd : n.state.detailOpen = true → n.state.selected.isSome = true)
    (hf : ∀ id, n.flash = some id → n.state.selected = some id) : n.Coherent where
  detail := hd
  flash := fun id h => ⟨hf id h, hp⟩
  tab := by simp [hp]
  since := by simp [hp]
  missed := by simp [hp]

theorem coherent_start (catalog : Catalog) (seed : Address) : (start catalog seed).Coherent :=
  coherent_of_idle rfl (by simp [start]) (by simp [start])

/-- A drill-down that waits has no mark beside it. -/
theorem Coherent.flash_eq_none (h : n.Coherent) {p : Pending} (hp : n.pending = some p) :
    n.flash = none := by
  cases hf : n.flash with
  | none => rfl
  | some id => simpa [hp] using (h.flash id hf).2

/-! ## Drill-downs -/

/-- A target that is found is chosen, with nothing left waiting. -/
theorem coherent_land (id : EntityId) : (n.land id).Coherent :=
  coherent_of_idle rfl (by simp [land]) (by simp [land])

/-- A drill-down that finds no target has none among the rows that are shown. -/
theorem fits_eq_false_of_miss {p : Pending} (hr : n.current.bind p.target? = none) {s : Snapshot}
    (hs : n.current = some s) : ∀ r ∈ s.rows p.tab, p.fits r = false := by
  rw [hs, Option.bind_some] at hr
  simpa [Pending.target?] using hr

/-- Starting a drill-down leads to a coherent state from any other. -/
theorem coherent_ask {p : Pending} (hp : p.requestedAt = n.current.map (·.timestamp)) :
    (n.ask p).Coherent := by
  cases hr : n.current.bind p.target? with
  | some r => rw [ask_of_hit hr]; exact coherent_land r.id
  | none =>
    rw [ask_of_miss hr]
    refine ⟨by simp, by simp, by simp, ?_, ?_⟩
    · intro q hq
      obtain rfl : p = q := by simpa using hq
      simpa using hp
    · intro q s hq hs
      obtain rfl : p = q := by simpa using hq
      exact fits_eq_false_of_miss hr (by simpa using hs)

/-- A snapshot decides the drill-down that waits, whether its target is there or not. -/
theorem pending_onSnapshot (h : n.Coherent) (s : Snapshot) : (n.onSnapshot s).pending = none := by
  cases hp : n.pending with
  | none => rw [onSnapshot_of_idle hp, pending_receive, hp]
  | some p =>
    rw [onSnapshot_of_pending hp (h.tab p hp)]
    cases hr : p.target? s with
    | some r => rw [resolve_of_hit true (by simpa using hp) hr]; rfl
    | none => rw [resolve_last_of_miss (by simpa using hp) hr]

/-- A choice that a snapshot lacks goes together with its details, but not under a mark. -/
theorem Coherent.choice_receive (h : n.Coherent) (s : Snapshot) :
    ((n.receive s).state.detailOpen = true → (n.receive s).state.selected.isSome = true) ∧
      ∀ id, (n.receive s).flash = some id → (n.receive s).state.selected = some id := by
  rcases n.receive_eq s with heq | ⟨hflash, heq⟩
  · rw [heq]
    exact ⟨by simpa using h.detail, fun id hid => by simpa using (h.flash id (by simpa using hid)).1⟩
  · rw [heq]
    exact ⟨by simp, by simp [hflash]⟩

theorem Coherent.onSnapshot (h : n.Coherent) (s : Snapshot) : (n.onSnapshot s).Coherent := by
  obtain ⟨hdetail, hflash⟩ := h.choice_receive s
  cases hp : n.pending with
  | none =>
    rw [onSnapshot_of_idle hp]
    exact coherent_of_idle (by simpa using hp) hdetail hflash
  | some p =>
    rw [onSnapshot_of_pending hp (h.tab p hp)]
    cases hr : p.target? s with
    | some r =>
      rw [resolve_of_hit true (by simpa using hp) hr]
      exact coherent_land r.id
    | none =>
      rw [resolve_last_of_miss (by simpa using hp) hr]
      exact coherent_of_idle rfl (by simpa using hdetail) (by simpa using hflash)

/-! ## Steps -/

theorem Coherent.quiet (h : n.Coherent) {m : Navigator} (hm : Quiet n m) : m.Coherent := by
  cases hm with
  | keep => exact h
  | detail isOpen hd => exact { h with detail := hd }
  | choose id isOpen hd => exact { h with detail := hd, flash := by simp }
  | view view => exact { h with }
  | filterText text => exact { h with }
  | columnFilter f => exact { h with }
  | timestamp t => exact { h with }
  | handOut => exact { h with }

/-- Leaving a tab gives up the drill-down that waits on it. -/
theorem Coherent.pending_leave (h : n.Coherent) {tab : Collection} (ht : tab ≠ n.state.tab) :
    n.pending.filter (·.tab = tab) = none := by
  rw [Option.filter_eq_none_iff]
  intro p hp hpt
  rw [h.tab p hp, decide_eq_true_eq] at hpt
  exact ht hpt.symm

/-- Whatever happens to a coherent navigator, it stays coherent. -/
theorem Coherent.step (h : n.Coherent) {op : NavigatorOp} {m : Navigator} (hs : Step n op m) :
    m.Coherent := by
  cases hs with
  | quiet _ hm => exact h.quiet hm
  | leave ht => exact coherent_of_idle (h.pending_leave ht) (by simp) (by simp)
  | ask hp => exact coherent_ask (requestedAt_of_asked hp)
  | arrive s => exact h.onSnapshot s

theorem coherent_run (catalog : Catalog) (seed : Address) (ops : List NavigatorOp) :
    ((start catalog seed).run ops).Coherent :=
  run_induction (coherent_start catalog seed) ops fun m op _ h => h.step (step_apply m op)

/-- Every state that a navigator can come to is coherent.  In particular an arriving snapshot
never finds a drill-down that waits for another tab than the one shown. -/
theorem coherent_of_reachable {catalog : Catalog} {seed : Address}
    (h : Reachable catalog seed n) :
    n.Coherent ∧ ∀ s p, (n.receive s).pending = some p → p.tab = (n.receive s).state.tab := by
  obtain ⟨ops, rfl⟩ := h
  have hc := coherent_run catalog seed ops
  refine ⟨hc, fun s p hp => ?_⟩
  rw [tab_receive]
  rw [pending_receive] at hp
  exact hc.tab p hp

/-- A drill-down from a session to its lock, which the snapshot that is shown does not have. -/
theorem coherent_while_waiting :
    let session : Row := ⟨.int 42, []⟩
    let n := (start { mode := .live } {}).run
      [.onSnapshot { timestamp := 1000, tables := { pga := [session] } },
        .requestDrillDown { target := "pgl", via := "pid" } (.int 42) .pga session]
    Reachable { mode := .live } {} n ∧ n.pending.isSome = true ∧ n.Coherent ∧
      ∀ s p, (n.receive s).pending = some p → p.tab = (n.receive s).state.tab :=
  ⟨⟨_, rfl⟩, by decide +kernel, coherent_of_reachable ⟨_, rfl⟩⟩

end SnapshotViewer.Navigator
