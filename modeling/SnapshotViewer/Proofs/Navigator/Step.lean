import SnapshotViewer.Proofs.Navigator.Frame

/-!
# What a step can do

Of the many things that can happen to a navigator, three concern the drill-down that waits: a
snapshot arrives, the tab is left, or a drill-down is started.  All others are `Quiet`: they
change one part of what is shown and leave the tab and the drill-down alone.  `step_apply` says so
once, with everything that a step can lead to, and what every operation keeps is derived from it.

## Main definitions

* `accepts`, `asked?` — the drill-down that an operation starts.
* `disturbs` — whether an operation concerns the drill-down that waits.
* `Quiet`, `Step` — what an operation can lead to.

## Main statements

* `step_apply` — every operation is such a step.
* `accepts_eq` — an operation starts a drill-down exactly if it asks for one.
-/

namespace SnapshotViewer.Navigator

/-- Whether something that happens starts a drill-down, as its answer tells. -/
def accepts (n : Navigator) : NavigatorOp → Bool
  | .requestDrillDown d value source r => (n.requestDrillDown d value source r).2
  | .drillDownSelected => n.drillDownSelected.2
  | _ => false

/-- The drill-down that something that happens asks for, if its target names a collection. -/
def asked? (n : Navigator) : NavigatorOp → Option Pending
  | .requestDrillDown d value source r =>
    d.targetTab?.map fun tab => n.pendingFor d tab value source r
  | .drillDownSelected => do
    let (d, value, r) ← n.drillSource?
    let tab ← d.targetTab?
    return n.pendingFor d tab value n.state.tab r
  | _ => none

/-- Whether something that happens concerns the drill-down that waits: a snapshot, leaving the
tab, or another drill-down. -/
def disturbs (n : Navigator) : NavigatorOp → Bool
  | .onSnapshot _ => true
  | .changeTab tab => tab ≠ n.state.tab
  | op => n.accepts op

/-- A change of one part of what is shown, which leaves the tab and the drill-down alone. -/
inductive Quiet (n : Navigator) : Navigator → Prop
  | keep : Quiet n n
  | detail (isOpen : Bool) (h : isOpen = true → n.state.selected.isSome = true) :
    Quiet n { n with state := { n.state with detailOpen := isOpen } }
  | choose (id : Option EntityId) (isOpen : Bool) (h : isOpen = true → id.isSome = true) :
    Quiet n
      { n with state := { n.state with selected := id, detailOpen := isOpen }, flash := none }
  | view (view : Option String) : Quiet n (n.changeView view)
  | filterText (text : String) : Quiet n (n.changeFilterText text)
  | columnFilter (f : Option ColumnFilter) :
    Quiet n { n with state := { n.state with columnFilter := f } }
  | timestamp (t : Option Int) : Quiet n (n.setTimestamp t)
  | handOut : Quiet n { n with dirty := false }

/-- What something that happens can lead to. -/
inductive Step (n : Navigator) : NavigatorOp → Navigator → Prop
  | quiet {op : NavigatorOp} {m : Navigator} (h : n.disturbs op = false) (hm : Quiet n m) :
    Step n op m
  | leave {tab : Collection} (h : tab ≠ n.state.tab) :
    Step n (.changeTab tab) ({ n with pending := n.pending.filter (·.tab = tab) }.enterTab tab)
  | ask {op : NavigatorOp} {p : Pending} (h : n.asked? op = some p) : Step n op (n.ask p)
  | arrive (s : Snapshot) : Step n (.onSnapshot s) (n.onSnapshot s)

variable {n : Navigator} {op : NavigatorOp} {p : Pending}

namespace Quiet
variable {m : Navigator} (h : Quiet n m)
include h

theorem pending_eq : m.pending = n.pending := by cases h <;> rfl

/-- A quiet change keeps the mark of a drill-down or takes it away. -/
theorem flash_eq : m.flash = n.flash ∨ m.flash = none := by
  cases h with
  | choose id isOpen hd => exact .inr rfl
  | _ => exact .inl rfl

end Quiet

/-! ## Drill-downs that are asked for -/

/-- A drill-down is asked for at the snapshot that is shown. -/
theorem requestedAt_of_asked (h : n.asked? op = some p) :
    p.requestedAt = n.current.map (·.timestamp) := by
  cases op with
  | requestDrillDown d value source r =>
    obtain ⟨tab, -, rfl⟩ := Option.map_eq_some_iff.1 h
    rfl
  | drillDownSelected =>
    simp only [asked?, Option.bind_eq_bind, Option.bind_eq_some_iff] at h
    obtain ⟨⟨d, value, r⟩, -, tab, -, hp⟩ := h
    obtain rfl : n.pendingFor d tab value n.state.tab r = p := by simpa using hp
    rfl
  | _ => cases h

/-- A request starts the drill-down that it asks for, or is refused and changes nothing. -/
theorem requestDrillDown_eq (n : Navigator) (d : DrillDown) (value : Scalar)
    (source : Collection) (r : Row) : n.requestDrillDown d value source r =
      match n.asked? (.requestDrillDown d value source r) with
      | some p => (n.ask p, true)
      | none => (n, false) := by
  simp only [requestDrillDown, asked?]
  cases d.targetTab? <;> rfl

theorem drillDownSelected_eq (n : Navigator) : n.drillDownSelected =
    match n.asked? .drillDownSelected with
    | some p => (n.ask p, true)
    | none => (n, false) := by
  simp only [drillDownSelected, asked?]
  cases n.drillSource? with
  | none => rfl
  | some source =>
    obtain ⟨d, value, r⟩ := source
    simp only [requestDrillDown, Option.bind_eq_bind, Option.bind_some]
    cases d.targetTab? <;> rfl

/-- Exactly what asks for a drill-down starts one. -/
theorem accepts_eq (n : Navigator) (op : NavigatorOp) : n.accepts op = (n.asked? op).isSome := by
  cases op with
  | requestDrillDown d value source r =>
    rw [accepts, requestDrillDown_eq]
    cases n.asked? (.requestDrillDown d value source r) <;> rfl
  | drillDownSelected =>
    rw [accepts, drillDownSelected_eq]
    cases n.asked? .drillDownSelected <;> rfl
  | _ => rfl

theorem accepts_of_asked (h : n.asked? op = some p) : n.accepts op = true := by
  rw [accepts_eq, h]
  rfl

theorem asked?_of_refused (h : n.accepts op = false) : n.asked? op = none := by
  rwa [accepts_eq, Option.isSome_eq_false_iff, Option.isNone_iff_eq_none] at h

theorem exists_asked_of_accepted (h : n.accepts op = true) : ∃ p, n.asked? op = some p := by
  rwa [accepts_eq, Option.isSome_iff_exists] at h

theorem apply_of_asked (h : n.asked? op = some p) : n.apply op = n.ask p := by
  cases op with
  | requestDrillDown d value source r => rw [apply, requestDrillDown_eq, h]
  | drillDownSelected => rw [apply, drillDownSelected_eq, h]
  | _ => cases h

theorem disturbs_of_asked (h : n.asked? op = some p) : n.disturbs op = true := by
  have ha := accepts_of_asked h
  cases op with
  | requestDrillDown d value source r => exact ha
  | drillDownSelected => exact ha
  | _ => cases h

theorem accepts_of_undisturbed (h : n.disturbs op = false) : n.accepts op = false := by
  rw [accepts_eq, Option.isSome_eq_false_iff, Option.isNone_iff_eq_none]
  cases ha : n.asked? op with
  | none => rfl
  | some p => simp [disturbs_of_asked ha] at h

/-! ## Every operation is a step -/

theorem quiet_moveTo (n : Navigator) (id : EntityId) : Quiet n (n.moveTo id) :=
  .choose (some id) n.state.detailOpen fun _ => rfl

theorem quiet_selectAt (n : Navigator) (position : Nat) : Quiet n (n.selectAt position) := by
  unfold selectAt
  cases n.visibleRows[position]? with
  | none => exact .keep
  | some r => exact quiet_moveTo n r.id

theorem quiet_openDetail (n : Navigator) : Quiet n n.openDetail := by
  unfold openDetail
  split
  · next h => exact .detail true fun _ => h
  · exact .keep

theorem quiet_closeDetail (n : Navigator) : Quiet n n.closeDetail := .detail false (by simp)

theorem quiet_toggleDetail (n : Navigator) : Quiet n n.toggleDetail := by
  unfold toggleDetail
  split
  · exact quiet_closeDetail n
  · exact quiet_openDetail n

theorem quiet_cycleView (n : Navigator) : Quiet n n.cycleView := by
  unfold cycleView
  split
  · exact .keep
  · split
    · exact .view none
    · exact .view _

theorem quiet_takeUpdate (n : Navigator) : Quiet n n.takeUpdate.1 := by
  unfold takeUpdate
  split
  · exact .handOut
  · exact .keep

/-- Starting a drill-down, or nothing. -/
theorem step_of_request {m : Navigator × Bool} (hd : n.disturbs op = m.2)
    (hm : m = match n.asked? op with | some p => (n.ask p, true) | none => (n, false)) :
    Step n op m.1 := by
  cases ha : n.asked? op with
  | none =>
    rw [ha] at hm
    subst hm
    exact .quiet hd .keep
  | some p =>
    rw [ha] at hm
    subst hm
    exact .ask ha

/-- Whatever happens to a navigator is a step. -/
theorem step_apply (n : Navigator) (op : NavigatorOp) : Step n op (n.apply op) := by
  cases op with
  | changeTab tab =>
    show Step n _ (n.changeTab tab)
    unfold changeTab
    split
    · next h => exact .quiet (by simp [disturbs, h]) .keep
    · next h => exact .leave h
  | selectRow id => exact .quiet rfl (.choose id id.isSome fun h => h)
  | openDetail => exact .quiet rfl (quiet_openDetail n)
  | closeDetail => exact .quiet rfl (quiet_closeDetail n)
  | toggleDetail => exact .quiet rfl (quiet_toggleDetail n)
  | changeView view => exact .quiet rfl (.view view)
  | cycleView => exact .quiet rfl (quiet_cycleView n)
  | changeFilterText text => exact .quiet rfl (.filterText text)
  | setColumnFilter f => exact .quiet rfl (.columnFilter (some f))
  | clearColumnFilter => exact .quiet rfl (.columnFilter none)
  | step delta => exact .quiet rfl (quiet_selectAt n _)
  | selectFirst => exact .quiet rfl (quiet_selectAt n _)
  | selectLast => exact .quiet rfl (quiet_selectAt n _)
  | requestDrillDown d value source r =>
    exact step_of_request rfl (requestDrillDown_eq n d value source r)
  | drillDownSelected => exact step_of_request rfl (drillDownSelected_eq n)
  | setTimestamp t => exact .quiet rfl (.timestamp t)
  | takeUpdate => exact .quiet rfl (quiet_takeUpdate n)
  | onSnapshot s => exact .arrive s

end SnapshotViewer.Navigator
