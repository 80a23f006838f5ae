import SnapshotViewer.Viewer.Basic

/-!
# Runs of the viewer

Everything that can happen to a viewer and to the files around it, as data, and the states that
it leads to.

A program that has broken off does nothing more (`crash?`).  A run takes no notice of that, so what
holds of all runs holds of those of a program up to the moment at which it breaks off.
-/

namespace SnapshotViewer

/-- Something that happens to a viewer or to the files around it. -/
inductive ViewerOp where
  /-- An event of the feed is handled. -/
  | event (e : FeedEvent)
  /-- A key is pressed at the moment `now`. -/
  | key (now : Int) (k : Key)
  /-- The feed is told something about a request. -/
  | report (request : Nat) (s : Signal)
  /-- Something else changes the files. -/
  | rearrange (change : Files → Files)

namespace Viewer

/-- A viewer and the files after something has happened. -/
def apply (state : Viewer × Files) : ViewerOp → Viewer × Files
  | .event e => let h := state.1.onEvent state.2 e; (h.viewer, h.files)
  | .key now k => let h := onKey now state.1 state.2 k; (h.viewer, h.files)
  | .report n s => ((state.1.receive n s).1, state.2)
  | .rearrange change => (state.1, change state.2)

/-- Whether the address could be saved in the course of something; `none` when nothing was to be
saved. -/
def saved? (state : Viewer × Files) : ViewerOp → Option Bool
  | .event e => (state.1.onEvent state.2 e).saved
  | .key now k => (onKey now state.1 state.2 k).saved
  | .report .. | .rearrange _ => none

/-- Why the program breaks off in the course of something, if it does; only a key can be the
reason. -/
def crash? (state : Viewer × Files) : ViewerOp → Option Crash
  | .event e => (state.1.onEvent state.2 e).crash
  | .key now k => (onKey now state.1 state.2 k).crash
  | .report .. | .rearrange _ => none

/-- A viewer and the files after several things have happened. -/
def run (state : Viewer × Files) (ops : List ViewerOp) : Viewer × Files := ops.foldl apply state

end Viewer

end SnapshotViewer
