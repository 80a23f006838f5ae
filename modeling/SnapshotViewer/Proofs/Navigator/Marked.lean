import SnapshotViewer.Proofs.Navigator.Cursor
import SnapshotViewer.Proofs.Navigator.Decision
import SnapshotViewer.Proofs.Navigator.Edit

/-!
# Rows that stay marked

The row that a drill-down has led to is marked until the user moves on: to a row, to another tab,
or along a drill-down.  Meanwhile it stays chosen, and no snapshot takes it away, not even one that
lacks it.  An operation that would move on but has nowhere to go, because no row is visible, the tab
is the one that is shown or the drill-down is refused, leaves the mark alone as well.

A navigator that can be come to has its marked row chosen (`Coherent.flash`), so it is enough to
follow the mark.

## Main definitions

* `movesOn` — whether the user moves on with an operation.
* `Stays` — a run in which the user does not.

## Main statements

* `flash_apply_of_stays`, `flash_apply_of_movesOn` — what an operation does to the mark.
* `marked_until_moved_on` — a marked row stays chosen and marked until the user moves on.
-/

namespace SnapshotViewer.Navigator

/-- Whether the user moves on with an operation: to another tab, to a row that is named or to one
that is visible, or along a drill-down. -/
def movesOn (n : Navigator) : NavigatorOp → Bool
  | .changeTab tab => tab ≠ n.state.tab
  | .selectRow _ => true
  | .step _ | .selectFirst | .selectLast => !n.visibleRows.isEmpty
  | op => n.accepts op

/-- The user does not move on. -/
def Stays (n : Navigator) (ops : List NavigatorOp) : Prop :=
  Along (fun m op => m.movesOn op = false) n ops

variable {n : Navigator} {op : NavigatorOp} {id : EntityId}

/-! ## The mark -/

/-- An operation with which the user does not move on leaves the mark where it is. -/
theorem flash_apply_of_stays (hc : n.Coherent) (hflash : n.flash = some id)
    (h : n.movesOn op = false) : (n.apply op).flash = some id := by
  cases hedit : op.isEdit with
  | true =>
    rw [apply_eq_edit hedit]
    exact hflash
  | false =>
    cases op with
    | changeTab tab =>
      have htab : tab = n.state.tab := by simpa [movesOn] using h
      rw [apply, changeTab, if_pos htab, hflash]
    | selectRow id => cases h
    | step delta =>
      have hempty : n.visibleRows = [] := by simpa [movesOn] using h
      rw [apply, step, selectAt_of_empty hempty, hflash]
    | selectFirst =>
      have hempty : n.visibleRows = [] := by simpa [movesOn] using h
      rw [apply, selectFirst, selectAt_of_empty hempty, hflash]
    | selectLast =>
      have hempty : n.visibleRows = [] := by simpa [movesOn] using h
      rw [apply, selectLast, selectAt_of_empty hempty, hflash]
    | requestDrillDown d value source r =>
      have hrefused : n.asked? (.requestDrillDown d value source r) = none := asked?_of_refused h
      rw [apply, requestDrillDown_eq, hrefused, hflash]
    | drillDownSelected =>
      have hrefused : n.asked? .drillDownSelected = none := asked?_of_refused h
      rw [apply, drillDownSelected_eq, hrefused, hflash]
    | setTimestamp t => exact hflash
    | takeUpdate =>
      rw [apply, takeUpdate]
      split
      · exact hflash
      · exact hflash
    | onSnapshot s =>
      -- nothing waits beside a mark, so there is nothing that the snapshot could mark
      have hidle : n.pending = none := (hc.flash id hflash).2
      rw [apply, flash_onSnapshot hc, hidle, hflash]
      rfl
    | _ => cases hedit

/-- When the user moves on the mark goes, and only a drill-down that finds its target at once sets
another one. -/
theorem flash_apply_of_movesOn (h : n.movesOn op = true) :
    n.accepts op = false ∧ (n.apply op).flash = none ∨
      ∃ p, n.asked? op = some p ∧ (n.await p).flash = none ∧
        (n.apply op).flash = (n.current.bind p.target?).map (·.id) := by
  cases op with
  | changeTab tab =>
    have htab : ¬tab = n.state.tab := by simpa [movesOn] using h
    refine .inl ⟨rfl, ?_⟩
    rw [apply, changeTab, if_neg htab]
    rfl
  | selectRow id => exact .inl ⟨rfl, rfl⟩
  | step delta =>
    have hrows : n.visibleRows ≠ [] := by simpa [movesOn] using h
    exact .inl ⟨rfl, flash_selectAt (stepTarget_lt hrows _ delta)⟩
  | selectFirst =>
    have hrows : n.visibleRows ≠ [] := by simpa [movesOn] using h
    exact .inl ⟨rfl, flash_selectAt (List.length_pos_iff.2 hrows)⟩
  | selectLast =>
    have hrows : n.visibleRows ≠ [] := by simpa [movesOn] using h
    have hlast : n.visibleRows.length - 1 < n.visibleRows.length :=
      Nat.sub_lt (List.length_pos_iff.2 hrows) Nat.one_pos
    exact .inl ⟨rfl, flash_selectAt hlast⟩
  | requestDrillDown d value source r =>
    have haccepted : n.accepts (.requestDrillDown d value source r) = true := h
    obtain ⟨p, hp⟩ := exists_asked_of_accepted haccepted
    refine .inr ⟨p, hp, flash_await n p, ?_⟩
    rw [apply_of_asked hp, flash_ask]
  | drillDownSelected =>
    have haccepted : n.accepts .drillDownSelected = true := h
    obtain ⟨p, hp⟩ := exists_asked_of_accepted haccepted
    refine .inr ⟨p, hp, flash_await n p, ?_⟩
    rw [apply_of_asked hp, flash_ask]
  | _ => cases h

theorem flash_run_of_stays (hc : n.Coherent) (hflash : n.flash = some id)
    {ops : List NavigatorOp} (h : n.Stays ops) : (n.run ops).flash = some id := by
  induction ops generalizing n with
  | nil => exact hflash
  | cons op ops ih =>
    exact ih (hc.step (step_apply n op)) (flash_apply_of_stays hc hflash h.1) h.2

/-- A row that a drill-down has led to stays chosen and marked through everything with which the
user does not move on, for however long that may be.  Whatever the user moves on with takes the mark
away; a drill-down takes it away when it enters its tab, and sets its own if it finds its target at
once. -/
theorem marked_until_moved_on {catalog : Catalog} {seed : Address}
    (h : Reachable catalog seed n) (hflash : n.flash = some id) :
    (∀ ops, n.Stays ops →
      (n.run ops).state.selected = some id ∧ (n.run ops).flash = some id) ∧
    ∀ op, n.movesOn op = true →
      n.accepts op = false ∧ (n.apply op).flash = none ∨
        ∃ p, n.asked? op = some p ∧ (n.await p).flash = none ∧
          (n.apply op).flash = (n.current.bind p.target?).map (·.id) := by
  obtain ⟨before, rfl⟩ := h
  have hc := coherent_run catalog seed before
  refine ⟨fun ops hstays => ?_, fun op hop => flash_apply_of_movesOn hop⟩
  have hmarked := flash_run_of_stays hc hflash hstays
  have hbehind : (((start catalog seed).run before).run ops).Coherent := by
    rw [← run_append]
    exact coherent_run catalog seed (before ++ ops)
  exact ⟨(hbehind.flash id hmarked).1, hmarked⟩

/-- The lock of a session vanishes, the text filter hides all others, and there is nowhere to step
to.  Then the filter is taken away again, and the next step leads to another lock. -/
theorem marked_until_moved_on_lock :
    let session : Row := ⟨.int 42, []⟩
    let first : Snapshot := { timestamp := 1000, tables := { pgl := [⟨.int 41, []⟩, session] } }
    let second : Snapshot := { timestamp := 1001, tables := { pgl := [⟨.int 41, []⟩] } }
    let toLock : DrillDown := { target := "pgl", via := "pid" }
    let n := (start { mode := .live } {}).run
      [.requestDrillDown toLock (.int 42) .pga session, .onSnapshot first]
    let ops : List NavigatorOp :=
      [.onSnapshot second, .changeFilterText "x", .step 1,
        .requestDrillDown { toLock with target := "" } (.int 42) .pga session, .changeTab .pgl,
        .changeFilterText ""]
    (Reachable { mode := .live } {} n ∧ n.flash = some (.int 42)) ∧
      (n.Stays ops ∧ (n.run ops).movesOn (.step 1) = true) ∧
      ((n.run ops).state.selected = some (.int 42) ∧ (n.run ops).flash = some (.int 42)) ∧
      ((n.run ops).apply (.step 1)).flash = none := by
  intro session first second toLock n ops
  have hreachable : Reachable { mode := .live } {} n := ⟨_, rfl⟩
  have hflash : n.flash = some (.int 42) := by decide +kernel
  have hstays : n.Stays ops := by
    refine ⟨?_, ?_, ?_, ?_, ?_, ?_, trivial⟩ <;> decide +kernel
  have hmoves : (n.run ops).movesOn (.step 1) = true := by decide +kernel
  obtain ⟨hmarked, -⟩ := marked_until_moved_on hreachable hflash
  have hthere : Reachable { mode := .live } {} (n.run ops) := ⟨_, (run_append _ _ ops).symm⟩
  obtain ⟨-, hstep⟩ := marked_until_moved_on hthere (hmarked ops hstays).2
  refine ⟨⟨hreachable, hflash⟩, ⟨hstays, hmoves⟩, hmarked ops hstays, ?_⟩
  rcases hstep (.step 1) hmoves with ⟨-, hnone⟩ | ⟨p, hp, -⟩
  · exact hnone
  · cases hp

end SnapshotViewer.Navigator
