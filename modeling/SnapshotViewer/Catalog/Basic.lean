import SnapshotViewer.Collection
import SnapshotViewer.Keyed

/-!
# The catalog

What the server says about its collections: their views and columns, and where to go from a row
of one collection into another.  A collection that the server does not describe has no views, no
columns, and its built-in identity field.
-/

namespace SnapshotViewer

/-- Whether the server shows what happens now or what happened before. -/
inductive Mode where
  | live
  | history
deriving DecidableEq, Repr

/-- The span of time of a recorded history. -/
structure Timeline where
  start : Int
  stop : Int
  total : Nat
deriving DecidableEq, Repr

/-- The database server that is watched. -/
structure Instance where
  database : String
  version : String
  isStandby : Option Bool := none
  hostname : Option String := none
deriving DecidableEq, Repr

/-- A column of a collection. -/
structure Column where
  key : String
  label : String
deriving DecidableEq, Repr

/-- A choice of columns. -/
structure View where
  key : String
  label : String
  columns : List String := []
  isDefault : Bool := false
deriving DecidableEq, Repr

/-- A way from a row of one collection to a row of another: the value of the field `via` is
looked up in the field `targetField` of the target.  With both filter fields set, the target is
also narrowed to the rows whose `filterTarget` holds the value of the source's `filterVia`. -/
structure DrillDown where
  target : String
  via : String
  targetField : Option String := none
  description : String := ""
  filterVia : Option String := none
  filterTarget : Option String := none
deriving DecidableEq, Repr

/-- The description of a collection. -/
structure Tab where
  name : String
  description : String := ""
  entityId : String
  columns : List Column := []
  views : List View := []
  drillDown : Option DrillDown := none
deriving DecidableEq, Repr

/-- The target of a drill-down, when it names a collection. -/
def DrillDown.targetTab? (d : DrillDown) : Option Collection := Collection.ofName? d.target

/-- What the server says about itself and its collections. -/
structure Catalog where
  mode : Mode
  version : String := ""
  timeline : Option Timeline := none
  server : Option Instance := none
  tabs : List (Collection × Tab) := []
deriving DecidableEq, Repr

namespace Catalog

/-- The description of a collection. -/
def tab? (c : Catalog) (k : Collection) : Option Tab := c.tabs.lookup k

/-- The catalog with a collection described anew. -/
def withTab (c : Catalog) (k : Collection) (t : Tab) : Catalog :=
  { c with tabs := (k, t) :: c.tabs }

/-- The field that identifies the rows of a collection. -/
def entityField (c : Catalog) (k : Collection) : String :=
  match c.tab? k with
  | some t => if t.entityId.isEmpty then k.idField else t.entityId
  | none => k.idField

/-- The views of a collection. -/
def views (c : Catalog) (k : Collection) : List View :=
  match c.tab? k with
  | some t => t.views
  | none => []

/-- The view that is shown unless another is asked for: the one marked so, else the first. -/
def defaultView? (c : Catalog) (k : Collection) : Option String :=
  (((c.views k).find? (·.isDefault)).or (c.views k).head?).map (·.key)

/-- Whether a collection has a view. -/
def hasView (c : Catalog) (k : Collection) (view : String) : Bool :=
  (c.views k).any (·.key == view)

/-- The way out of the rows of a collection. -/
def drillDown? (c : Catalog) (k : Collection) : Option DrillDown :=
  (c.tab? k).bind (·.drillDown)

/-- The columns of a collection. -/
def columns (c : Catalog) (k : Collection) : List Column :=
  match c.tab? k with
  | some t => t.columns
  | none => []

/-- The columns that a view shows, the default view when none is named.  A view without columns
of its own shows all of them. -/
def columnsFor (c : Catalog) (k : Collection) (view : Option String) : List String :=
  let shown := (view.or (c.defaultView? k)).bind fun v => (c.views k).find? (·.key == v)
  match shown with
  | some v => if v.columns.isEmpty then (c.columns k).map (·.key) else v.columns
  | none => (c.columns k).map (·.key)

/-- The caption of a column. -/
def columnLabel (c : Catalog) (k : Collection) (column : String) : String :=
  match (c.columns k).find? (·.key == column) with
  | some col => col.label
  | none => column

@[simp] theorem tab?_withTab (c : Catalog) (k l : Collection) (t : Tab) :
    (c.withTab k t).tab? l = if l = k then some t else c.tab? l := by
  unfold withTab tab?
  rw [List.lookup_cons]
  by_cases h : l = k
  · simp [h]
  · simp [beq_false_of_ne h, h]

end Catalog

end SnapshotViewer
