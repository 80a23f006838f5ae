/-!
# Collections

The kinds of entities that a snapshot lists, one to a tab, in the order of the tabs.
-/

namespace SnapshotViewer

/-- A kind of entity, shown as a tab. -/
inductive Collection where
  /-- Processes of the operating system. -/
  | prc
  /-- Sessions. -/
  | pga
  /-- Statements. -/
  | pgs
  /-- Tables. -/
  | pgt
  /-- Indexes. -/
  | pgi
  /-- Events of the log. -/
  | pge
  /-- Nodes of the tree of locks. -/
  | pgl
  /-- Vacuum runs. -/
  | pgv
deriving DecidableEq, Repr, Inhabited

namespace Collection

/-- All collections in the order of their tabs. -/
def all : List Collection := [prc, pga, pgs, pgt, pgi, pge, pgl, pgv]

/-- The name of a collection in addresses and documents. -/
def name : Collection → String
  | prc => "prc"
  | pga => "pga"
  | pgs => "pgs"
  | pgt => "pgt"
  | pgi => "pgi"
  | pge => "pge"
  | pgl => "pgl"
  | pgv => "pgv"

/-- The caption of a collection's tab. -/
def label : Collection → String
  | prc => "PRC"
  | pga => "PGA"
  | pgs => "PGS"
  | pgt => "PGT"
  | pgi => "PGI"
  | pge => "PGE"
  | pgl => "PGL"
  | pgv => "PGV"

/-- The collection of a name. -/
def ofName? (s : String) : Option Collection := all.find? (·.name == s)

/-- The collection at a position, counted from zero. -/
def ofIndex? (i : Nat) : Option Collection := all[i]?

/-- The position of a collection. -/
def index : Collection → Nat
  | prc => 0
  | pga => 1
  | pgs => 2
  | pgt => 3
  | pgi => 4
  | pge => 5
  | pgl => 6
  | pgv => 7

/-- The collection behind this one; the first follows the last. -/
def next : Collection → Collection
  | prc => pga
  | pga => pgs
  | pgs => pgt
  | pgt => pgi
  | pgi => pge
  | pge => pgl
  | pgl => pgv
  | pgv => prc

/-- The collection in front of this one; the last precedes the first. -/
def prev : Collection → Collection
  | prc => pgv
  | pga => prc
  | pgs => pga
  | pgt => pgs
  | pgi => pgt
  | pge => pgi
  | pgl => pge
  | pgv => pgl

/-- The field that identifies a row. -/
def idField : Collection → String
  | prc | pga | pgl | pgv => "pid"
  | pgs => "queryid"
  | pgt => "relid"
  | pgi => "indexrelid"
  | pge => "event_id"

/-- The least and the greatest number that identifies a row. -/
def idBounds : Collection → Int × Int
  | prc | pgt | pgi => (0, 0xFFFFFFFF)
  | pga | pgl | pgv => (-0x80000000, 0x7FFFFFFF)
  | pgs => (-0x8000000000000000, 0x7FFFFFFFFFFFFFFF)
  | pge => (0, 0xFFFFFFFFFFFFFFFF)

@[simp] theorem ofName?_name (k : Collection) : ofName? k.name = some k := by
  cases k <;> rfl

@[simp] theorem ofIndex?_index (k : Collection) : ofIndex? k.index = some k := by
  cases k <;> rfl

@[simp] theorem prev_next (k : Collection) : k.next.prev = k := by cases k <;> rfl

@[simp] theorem next_prev (k : Collection) : k.prev.next = k := by cases k <;> rfl

theorem mem_all (k : Collection) : k ∈ all := by cases k <;> decide

end Collection

end SnapshotViewer
