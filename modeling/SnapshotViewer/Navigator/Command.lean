import SnapshotViewer.Navigator.Basic

/-!
# Commands of the user

Changes of tab, row, view and filters.
-/

namespace SnapshotViewer.Navigator

/-- Shows a tab afresh; a drill-down that waits is left alone. -/
def enterTab (n : Navigator) (tab : Collection) : Navigator :=
  { n with state := { tab }, flash := none }.persist fun a =>
    { a with tab, view := none, filter := none }

/-- Shows another tab afresh.  A drill-down that waits for a row elsewhere is given up. -/
def changeTab (n : Navigator) (tab : Collection) : Navigator :=
  if tab = n.state.tab then n
  else { n with pending := n.pending.filter (·.tab = tab) }.enterTab tab

/-- Chooses a row and opens its details, or chooses none. -/
def selectRow (n : Navigator) (id : Option EntityId) : Navigator :=
  { n with
    state := { n.state with selected := id, detailOpen := id.isSome }
    flash := none }

/-- Opens the details of the chosen row. -/
def openDetail (n : Navigator) : Navigator :=
  if n.state.selected.isSome then { n with state := { n.state with detailOpen := true } } else n

/-- Closes the details. -/
def closeDetail (n : Navigator) : Navigator :=
  { n with state := { n.state with detailOpen := false } }

/-- Opens the details or closes them. -/
def toggleDetail (n : Navigator) : Navigator :=
  if n.state.detailOpen then n.closeDetail else n.openDetail

/-- Chooses a view; none, and the empty one, are the default. -/
def changeView (n : Navigator) (view : Option String) : Navigator :=
  let view := view.bind nonEmpty
  { n with state := { n.state with view } }.persist fun a => { a with view }

/-- The key of the view behind the one that is shown; the first follows the last. -/
def nextView? (n : Navigator) : Option String :=
  let views := (n.catalog.views n.state.tab).map (·.key)
  match views.findIdx? (some · = n.effectiveView) with
  | some i => views[(i + 1) % views.length]?
  | none => views.head?

/-- Chooses the next view; the default one is chosen by choosing none. -/
def cycleView (n : Navigator) : Navigator :=
  match n.nextView? with
  | none => n
  | some next =>
    if n.catalog.defaultView? n.state.tab = some next then n.changeView none
    else n.changeView (some next)

/-- Changes the filter text. -/
def changeFilterText (n : Navigator) (text : String) : Navigator :=
  { n with state := { n.state with filterText := text } }.persist fun a =>
    { a with filter := nonEmpty text }

/-- Sets the column filter. -/
def setColumnFilter (n : Navigator) (f : ColumnFilter) : Navigator :=
  { n with state := { n.state with columnFilter := some f } }

/-- Takes the column filter away. -/
def clearColumnFilter (n : Navigator) : Navigator :=
  { n with state := { n.state with columnFilter := none } }

/-- Chooses a row without opening its details. -/
def moveTo (n : Navigator) (id : EntityId) : Navigator :=
  { n with state := { n.state with selected := some id }, flash := none }

/-- The position of the first visible row with an identity. -/
def positionOf? (rows : List Row) (id : EntityId) : Option Nat := rows.findIdx? (·.id = id)

/-- The position that a step of `delta` rows leads to: from the chosen row, stopping at the
ends; else to the last row for a step back and to the first for any other.  Positions are numbers
of 64 bits. -/
def stepTarget (rows : List Row) (selected : Option EntityId) (delta : Int) : Nat :=
  let last := rows.length - 1
  match selected.bind (positionOf? rows) with
  | some p => min (saturateUInt64 (p + delta)) last
  | none => if delta < 0 then last else 0

/-- Chooses the visible row at a position; without such a row nothing happens. -/
def selectAt (n : Navigator) (position : Nat) : Navigator :=
  match n.visibleRows[position]? with
  | some r => n.moveTo r.id
  | none => n

/-- Moves the choice by so many visible rows. -/
def step (n : Navigator) (delta : Int) : Navigator :=
  n.selectAt (stepTarget n.visibleRows n.state.selected delta)

/-- Chooses the first visible row. -/
def selectFirst (n : Navigator) : Navigator := n.selectAt 0

/-- Chooses the last visible row. -/
def selectLast (n : Navigator) : Navigator := n.selectAt (n.visibleRows.length - 1)

end SnapshotViewer.Navigator
