/-!
# Machine integers

The integers of 32 and 64 bits, with and without a sign, in which numbers come from the parts of a
program.
-/

namespace SnapshotViewer

/-- An integer of a fixed width. -/
inductive Word where
  | int32 (v : Int32)
  | uint32 (v : UInt32)
  | int64 (v : Int64)
  | uint64 (v : UInt64)
deriving DecidableEq, Repr

/-- The number that a machine integer holds. -/
def Word.toInt : Word → Int
  | .int32 v => v.toInt
  | .uint32 v => v.toNat
  | .int64 v => v.toInt
  | .uint64 v => v.toNat

end SnapshotViewer
