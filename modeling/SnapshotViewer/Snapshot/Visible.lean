import SnapshotViewer.Snapshot.Basic
import SnapshotViewer.Text.Blank

/-!
# Visible rows

The rows of a collection that pass the filters: a text that must occur in some value, and a
column that must hold a value.
-/

namespace SnapshotViewer

/-- A column and the value it must hold. -/
structure ColumnFilter where
  column : String
  value : Scalar
deriving DecidableEq, Repr

namespace ColumnFilter

/-- The text shown for a column filter. -/
def display (f : ColumnFilter) : String := f.column ++ "=" ++ f.value.display

/-- Whether a row of a collection passes the filter. -/
def passes (f : ColumnFilter) (k : Collection) (r : Row) : Bool :=
  (r.field? k f.column).any (·.agrees f.value)

end ColumnFilter

/-- What a filter text looks for: blanks at its ends and its case do not matter. -/
def needleOf (filterText : String) : String := Text.lower (Text.trim filterText)

namespace Snapshot

/-- The rows of a collection that pass both filters, in the order of the server. -/
def visible (s : Snapshot) (k : Collection) (filterText : String)
    (columnFilter : Option ColumnFilter) : List Row :=
  (s.rows k).filter fun r =>
    columnFilter.all (·.passes k r) && r.matchesText (needleOf filterText)

theorem mem_visible_iff {s : Snapshot} {k : Collection} {filterText : String}
    {columnFilter : Option ColumnFilter} {r : Row} :
    r ∈ s.visible k filterText columnFilter ↔ r ∈ s.rows k ∧
      columnFilter.all (·.passes k r) = true ∧ r.matchesText (needleOf filterText) = true := by
  simp [visible]

end Snapshot

end SnapshotViewer
