import SnapshotViewer.Keyboard

/-!
# Runs at the keyboard

Keys that are pressed and snapshots that arrive meanwhile, as data, and what they make of the
keyboard and of the navigator.  What a key asks of the rest of the program is not part of it.
-/

namespace SnapshotViewer

/-- Something that happens at the keyboard. -/
inductive KeyboardOp where
  /-- A key is pressed at the moment `now`. -/
  | key (now : Int) (k : Key)
  /-- A snapshot arrives meanwhile. -/
  | snapshot (s : Snapshot)
deriving DecidableEq, Repr

namespace Keyboard

/-- The keyboard and the navigator after something has happened. -/
def apply (state : InputState × Navigator) : KeyboardOp → InputState × Navigator
  | .key now k => let r := state.1.handleKey now state.2 k; (r.input, r.nav)
  | .snapshot s => (state.1, state.2.onSnapshot s)

/-- The keyboard and the navigator after several things have happened. -/
def run (state : InputState × Navigator) (ops : List KeyboardOp) : InputState × Navigator :=
  ops.foldl apply state

/-- The states that a keyboard can come to, whatever the navigator. -/
def Reachable (i : InputState) : Prop := ∃ isLive n ops, i = (run ({ isLive }, n) ops).1

/-- Several keys that are pressed, with nothing arriving meanwhile. -/
def presses (keys : List (Int × Key)) : List KeyboardOp := keys.map fun p => .key p.1 p.2

end Keyboard

end SnapshotViewer
