import SnapshotViewer.Snapshot.Basic

/-!
# Moves along the timeline

A move from the snapshot that is shown to a neighbour or by an hour.  A target may fall between
two snapshots; the direction says which of them is meant.
-/

namespace SnapshotViewer

/-- Which neighbour stands for a moment without a snapshot. -/
inductive Direction where
  /-- The last one that is not later. -/
  | floor
  /-- The first one that is not earlier. -/
  | ceil
deriving DecidableEq, Repr

/-- The name of a direction in requests. -/
def Direction.name : Direction → String
  | .floor => "floor"
  | .ceil => "ceil"

/-- A move along the timeline. -/
inductive HistoryStep where
  | back
  | forward
  | hourBack
  | hourForward
deriving DecidableEq, Repr

namespace HistoryStep

/-- The moment so many seconds behind the one of a snapshot. -/
def count (current : Snapshot) (seconds : Int) (direction : Direction) :
    Except Crash (Option (Int × Direction)) :=
  (checkInt64 (current.timestamp + seconds)).map fun t => some (t, direction)

/-- The target of a move from a snapshot.  The server names the neighbours of a snapshot that
has any; a snapshot with neighbours on one side only is an end of the timeline, and one without
any is left by a second.  Moments are numbers of 64 bits, and seconds that lead out of their bounds
are a crash. -/
def target? (current : Snapshot) : HistoryStep → Except Crash (Option (Int × Direction))
  | .back =>
    match current.prev with
    | some t => .ok (some (t, .floor))
    | none => if current.next.isSome then .ok none else count current (-1) .floor
  | .forward =>
    match current.next with
    | some t => .ok (some (t, .ceil))
    | none => if current.prev.isSome then .ok none else count current 1 .ceil
  | .hourBack => count current (-3600) .floor
  | .hourForward => count current 3600 .ceil

end HistoryStep

end SnapshotViewer
