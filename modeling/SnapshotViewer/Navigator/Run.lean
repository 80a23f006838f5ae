import SnapshotViewer.Navigator.DrillDown

/-!
# Runs of the navigator

Everything that can happen to a navigator, as data, and the states that it can lead to.
-/

namespace SnapshotViewer

/-- Something that happens to a navigator. -/
inductive NavigatorOp where
  | changeTab (tab : Collection)
  | selectRow (id : Option EntityId)
  | openDetail
  | closeDetail
  | toggleDetail
  | changeView (view : Option String)
  | cycleView
  | changeFilterText (text : String)
  | setColumnFilter (f : ColumnFilter)
  | clearColumnFilter
  | step (delta : Int)
  | selectFirst
  | selectLast
  | requestDrillDown (d : DrillDown) (value : Scalar) (source : Collection) (r : Row)
  | drillDownSelected
  | setTimestamp (timestamp : Option Int)
  | takeUpdate
  | onSnapshot (s : Snapshot)
deriving DecidableEq, Repr

namespace Navigator

/-- The navigator after something has happened. -/
def apply (n : Navigator) : NavigatorOp → Navigator
  | .changeTab tab => n.changeTab tab
  | .selectRow id => n.selectRow id
  | .openDetail => n.openDetail
  | .closeDetail => n.closeDetail
  | .toggleDetail => n.toggleDetail
  | .changeView view => n.changeView view
  | .cycleView => n.cycleView
  | .changeFilterText text => n.changeFilterText text
  | .setColumnFilter f => n.setColumnFilter f
  | .clearColumnFilter => n.clearColumnFilter
  | .step delta => n.step delta
  | .selectFirst => n.selectFirst
  | .selectLast => n.selectLast
  | .requestDrillDown d value source r => (n.requestDrillDown d value source r).1
  | .drillDownSelected => n.drillDownSelected.1
  | .setTimestamp timestamp => n.setTimestamp timestamp
  | .takeUpdate => n.takeUpdate.1
  | .onSnapshot s => n.onSnapshot s

/-- The navigator after several things have happened. -/
def run (n : Navigator) (ops : List NavigatorOp) : Navigator := ops.foldl apply n

/-- The states that a navigator can come to. -/
def Reachable (catalog : Catalog) (seed : Address) (n : Navigator) : Prop :=
  ∃ ops, n = (start catalog seed).run ops

end Navigator

end SnapshotViewer
