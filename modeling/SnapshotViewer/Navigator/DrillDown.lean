import SnapshotViewer.Navigator.Command

/-!
# Drill-downs

A drill-down leads from a row to the row of another tab that has the right value in the right
field.  The tab is entered at once.  If the target is in the snapshot that is shown it is chosen
at once too, otherwise the drill-down waits, and the next snapshot decides it for good.

## Main definitions

* `resolve` — looks for the target of the drill-down that waits.
* `await`, `ask`, `requestDrillDown`, `drillDownSelected`.
* `receive`, `onSnapshot` — the arrival of a snapshot, before and after the drill-down that
  waits is decided.
-/

namespace SnapshotViewer

/-- Whether a row of the target tab is one that a drill-down looks for. -/
def Pending.fits (p : Pending) (r : Row) : Bool :=
  (r.field? p.tab p.field).any (·.agrees p.value)

/-- The first row of a snapshot that a drill-down waits for. -/
def Pending.target? (p : Pending) (s : Snapshot) : Option Row := (s.rows p.tab).find? p.fits

namespace Navigator

/-- Puts the column filter of a drill-down into force; the view is the default one then. -/
def applyFilter (n : Navigator) : Option ColumnFilter → Navigator
  | none => n
  | some f =>
    { n with state := { n.state with view := none, columnFilter := some f } }.persist fun a =>
      { a with view := none }

/-- Chooses the row that a drill-down has led to, opens its details and marks it. -/
def land (n : Navigator) (id : EntityId) : Navigator :=
  { n with
    state := { n.state with selected := some id, detailOpen := true }
    flash := some id
    pending := none }

/-- Looks for the target of the drill-down that waits.  When it is not there the drill-down goes
on waiting, unless this was its last chance. -/
def resolve (n : Navigator) (s : Snapshot) (lastChance : Bool) : Navigator :=
  match n.pending with
  | none => n
  | some p =>
    let n := n.applyFilter p.filter
    match p.target? s with
    | some r => n.land r.id
    | none => if lastChance then { n with pending := none } else n

/-- The column filter that a drill-down from a row carries. -/
def carriedFilter (d : DrillDown) (source : Collection) (r : Row) : Option ColumnFilter :=
  match d.filterTarget, d.filterVia with
  | some column, some via =>
    ((r.field? source via).filter fun v => !v.isNull).map fun v => ⟨column, v⟩
  | _, _ => none

/-- The drill-down for a value, seen from a row of the collection `source`. -/
def pendingFor (n : Navigator) (d : DrillDown) (tab : Collection) (value : Scalar)
    (source : Collection) (r : Row) : Pending where
  tab
  field := d.targetField.getD (n.catalog.entityField tab)
  value
  filter := carriedFilter d source r
  requestedAt := n.current.map (·.timestamp)

/-- Enters the tab of a drill-down, which waits there. -/
def await (n : Navigator) (p : Pending) : Navigator :=
  { n with pending := some p }.enterTab p.tab

/-- Starts a drill-down: enters its tab and looks for its target in the snapshot that is shown. -/
def ask (n : Navigator) (p : Pending) : Navigator :=
  match n.current with
  | some s => (n.await p).resolve s false
  | none => n.await p

/-- Starts a drill-down for a value, seen from a row of the collection `source`; nothing happens
when its target names no collection.  Tells whether it was started. -/
def requestDrillDown (n : Navigator) (d : DrillDown) (value : Scalar) (source : Collection)
    (r : Row) : Navigator × Bool :=
  match d.targetTab? with
  | none => (n, false)
  | some tab => (n.ask (n.pendingFor d tab value source r), true)

/-- The value and the row that a drill-down from the chosen row starts from. -/
def drillSource? (n : Navigator) : Option (DrillDown × Scalar × Row) := do
  let d ← n.catalog.drillDown? n.state.tab
  let r ← n.selectedRow?
  let v ← (r.field? n.state.tab d.via).filter fun v => !v.isNull
  return (d, v, r)

/-- Starts the drill-down of the tab from the chosen row.  Tells whether it was started. -/
def drillDownSelected (n : Navigator) : Navigator × Bool :=
  match n.drillSource? with
  | some (d, v, r) => n.requestDrillDown d v n.state.tab r
  | none => (n, false)

/-- Gives up a choice whose row is gone.  The target of a drill-down is kept even then. -/
def checkLiveness (n : Navigator) (s : Snapshot) : Navigator :=
  match n.flash, n.state.selected with
  | none, some id =>
    if (s.find? n.state.tab id).isSome then n
    else { n with state := { n.state with selected := none, detailOpen := false } }
  | _, _ => n

/-- Decides the drill-down that waits; one for another tab is given up. -/
def resolveOnArrival (n : Navigator) (s : Snapshot) : Navigator :=
  match n.pending with
  | none => n
  | some p =>
    if p.tab = n.state.tab then n.resolve s true else { n with pending := none }

/-- In history the moment of a snapshot goes into the address. -/
def stamp (n : Navigator) (s : Snapshot) : Navigator :=
  match n.catalog.mode with
  | .history => n.setTimestamp (some s.timestamp)
  | .live => n

/-- Takes a snapshot over and gives up a choice that it lacks; a drill-down still waits. -/
def receive (n : Navigator) (s : Snapshot) : Navigator :=
  { n.stamp s with current := some s }.checkLiveness s

/-- Shows a snapshot, which decides the drill-down that waits. -/
def onSnapshot (n : Navigator) (s : Snapshot) : Navigator := (n.receive s).resolveOnArrival s

end Navigator

end SnapshotViewer
