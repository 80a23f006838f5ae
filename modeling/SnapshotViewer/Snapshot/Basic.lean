import SnapshotViewer.Collection
import SnapshotViewer.Scalar
import SnapshotViewer.Text.Lowercase

/-!
# Snapshots

A snapshot is what the server knew at one moment: for each collection an ordered list of rows.
A row has an identity and an open set of further fields, kept in order of their names.

## Main definitions

* `Row`, `Snapshot`, `Snapshot.rows`.
* `Row.field?`, `Row.entries`, `Row.matchesText` — three views of the fields of a row.
* `Snapshot.find?`, `Snapshot.findBy?` — the first row with an identity or a field value.
-/

namespace SnapshotViewer

/-- The fields of a row besides its identity, in order of their names. -/
abbrev Fields := List (String × Scalar)

/-- A row of a collection. -/
structure Row where
  id : EntityId
  fields : Fields
deriving DecidableEq, Repr, Inhabited

/-- The rows of all collections. -/
structure Tables where
  prc : List Row := []
  pga : List Row := []
  pgs : List Row := []
  pgt : List Row := []
  pgi : List Row := []
  pge : List Row := []
  pgl : List Row := []
  pgv : List Row := []
deriving DecidableEq, Repr, Inhabited

namespace Tables

/-- The rows of one collection. -/
def rows (t : Tables) : Collection → List Row
  | .prc => t.prc
  | .pga => t.pga
  | .pgs => t.pgs
  | .pgt => t.pgt
  | .pgi => t.pgi
  | .pge => t.pge
  | .pgl => t.pgl
  | .pgv => t.pgv

/-- The tables with the rows of one collection replaced. -/
def put (t : Tables) (rows : List Row) : Collection → Tables
  | .prc => { t with prc := rows }
  | .pga => { t with pga := rows }
  | .pgs => { t with pgs := rows }
  | .pgt => { t with pgt := rows }
  | .pgi => { t with pgi := rows }
  | .pge => { t with pge := rows }
  | .pgl => { t with pgl := rows }
  | .pgv => { t with pgv := rows }

@[simp] theorem rows_put (t : Tables) (rows : List Row) (k l : Collection) :
    (t.put rows k).rows l = if l = k then rows else t.rows l := by
  cases k <;> cases l <;> rfl

end Tables

/-- All collections at one moment, in seconds, with the moments of the neighbours that the
server keeps. -/
structure Snapshot where
  timestamp : Int
  prev : Option Int := none
  next : Option Int := none
  tables : Tables := {}
deriving DecidableEq, Repr, Inhabited

namespace Row

/-- The value of a field of a row of collection `k`. -/
def field? (r : Row) (k : Collection) (name : String) : Option Scalar :=
  if name = k.idField then some r.id.toScalar else Keyed.find? name r.fields

/-- All fields with their names, the identity first. -/
def entries (r : Row) (k : Collection) : List (String × Scalar) :=
  (k.idField, r.id.toScalar) :: r.fields

/-- Whether a text occurs in a value as it is shown in lower case. -/
def occursIn (needle : String) (v : Scalar) : Bool :=
  !v.isNull && Text.contains (Text.lower v.display) needle

/-- Whether a text in lower case occurs in the identity or in some value, as they are shown. -/
def matchesText (r : Row) (needle : String) : Bool :=
  needle.isEmpty || Text.contains r.id.display needle || r.fields.any fun f => occursIn needle f.2

end Row

namespace Snapshot

/-- The rows of a collection, in the order of the server. -/
def rows (s : Snapshot) (k : Collection) : List Row := s.tables.rows k

/-- The first row with an identity. -/
def find? (s : Snapshot) (k : Collection) (id : EntityId) : Option Row :=
  (s.rows k).find? (·.id == id)

/-- The first row with a field of that very value. -/
def findBy? (s : Snapshot) (k : Collection) (name : String) (value : Scalar) : Option Row :=
  (s.rows k).find? fun r => (r.field? k name).any (·.same value)

end Snapshot

end SnapshotViewer
