import SnapshotViewer.Address.Basic
import SnapshotViewer.Catalog.Basic
import SnapshotViewer.Snapshot.Visible

/-!
# The navigator

The state behind the screen: which tab, view, filters and row are chosen, and a drill-down that
waits for its target.  The part of it that belongs into an address is kept in the address as
well, together with a note whether that has changed since it was last handed out.

This module holds the state and what can be read off it; commands and the arrival of snapshots
are in the modules beside it.
-/

namespace SnapshotViewer

/-- What is shown and chosen; no view means the default one of the tab. -/
structure Selection where
  tab : Collection
  selected : Option EntityId := none
  detailOpen : Bool := false
  view : Option String := none
  filterText : String := ""
  columnFilter : Option ColumnFilter := none
deriving DecidableEq, Repr

/-- A drill-down that waits for its target: the row of `tab` whose `field` agrees with
`value`. -/
structure Pending where
  tab : Collection
  field : String
  value : Scalar
  filter : Option ColumnFilter
  /-- The moment of the snapshot that was shown when the drill-down was asked for. -/
  requestedAt : Option Int
deriving DecidableEq, Repr

/-- The state of the navigation. -/
structure Navigator where
  catalog : Catalog
  state : Selection
  pending : Option Pending := none
  /-- The row that a drill-down has led to, until the user moves on. -/
  flash : Option EntityId := none
  current : Option Snapshot := none
  address : Address
  /-- The address has changed since it was last handed out. -/
  dirty : Bool := false
  /-- The moment to show first, in history. -/
  initialTimestamp : Option Int := none
deriving DecidableEq, Repr

namespace Navigator

/-- The navigation that an address leads to.  A view that the tab does not have is dropped, and
only a history keeps the moment. -/
def start (catalog : Catalog) (seed : Address) : Navigator :=
  let view := seed.view.filter (catalog.hasView seed.tab ·)
  let text := seed.filter.getD ""
  let timestamp := match catalog.mode with
    | .history => seed.timestamp
    | .live => none
  { catalog
    state := { tab := seed.tab, view, filterText := text }
    address :=
      { tab := seed.tab, view, filter := nonEmpty text, timestamp, key := seed.key }
    initialTimestamp := timestamp }

/-- The view that is shown: the chosen one or the default of the tab. -/
def effectiveView (n : Navigator) : Option String :=
  n.state.view.or (n.catalog.defaultView? n.state.tab)

/-- The rows of the tab that pass both filters. -/
def visibleRows (n : Navigator) : List Row :=
  match n.current with
  | some s => s.visible n.state.tab n.state.filterText n.state.columnFilter
  | none => []

/-- The chosen row in the snapshot that is shown. -/
def selectedRow? (n : Navigator) : Option Row := do
  (← n.current).find? n.state.tab (← n.state.selected)

/-- Changes the address and notes whether that made a difference. -/
def persist (n : Navigator) (change : Address → Address) : Navigator :=
  let address := change n.address
  { n with address, dirty := n.dirty || address ≠ n.address }

/-- Hands the address out if it has changed since it was last handed out. -/
def takeUpdate (n : Navigator) : Navigator × Option Address :=
  if n.dirty then ({ n with dirty := false }, some n.address) else (n, none)

/-- Puts a moment other than zero into the address, or takes it out. -/
def setTimestamp (n : Navigator) (timestamp : Option Int) : Navigator :=
  n.persist fun a => { a with timestamp := timestamp.bind nonZero }

end Navigator

end SnapshotViewer
