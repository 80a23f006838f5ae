import SnapshotViewer.Snapshot.Basic

/-!
# The store

The snapshot that was accepted last, a count of those accepted, and the error that is shown
instead of news.  A closed store accepts nothing.
-/

namespace SnapshotViewer

/-- The snapshot that is shown. -/
structure Store where
  current : Option Snapshot := none
  generation : Nat := 0
  error : Option String := none
  closed : Bool := false
deriving DecidableEq, Repr

/-- An operation on the store. -/
inductive StoreOp where
  | replace (s : Snapshot)
  | setError (message : String)
  | clearError
  | close
deriving DecidableEq, Repr

namespace Store

/-- Accepts a snapshot, unless the store is closed; the error is over then. -/
def replace (st : Store) (s : Snapshot) : Store :=
  if st.closed then st
  else { st with current := some s, generation := st.generation + 1, error := none }

/-- Shows an error, unless the store is closed. -/
def setError (st : Store) (message : String) : Store :=
  if st.closed then st else { st with error := some message }

/-- Takes the error away. -/
def clearError (st : Store) : Store := { st with error := none }

/-- Accepts nothing from now on. -/
def close (st : Store) : Store := { st with closed := true }

/-- The store after an operation. -/
def apply (st : Store) : StoreOp → Store
  | .replace s => st.replace s
  | .setError m => st.setError m
  | .clearError => st.clearError
  | .close => st.close

/-- Whether a snapshot that comes now is accepted. -/
def accepts (st : Store) : Bool := !st.closed

end Store

end SnapshotViewer
