import SnapshotViewer.Rehearsal.Clock
import SnapshotViewer.Viewer.Opening

/-!
# A viewer in scripted surroundings

A viewer together with all that it depends on: files, a clock and a server.  Its feed works
whenever it can; the events that it sends wait until the viewer is told to handle them.
-/

namespace SnapshotViewer

/-- A viewer in its surroundings. -/
structure Rehearsal where
  viewer : Viewer
  files : Files
  surroundings : Surroundings
  /-- What the feed wants done when it first gets to work. -/
  firstEffects : List Effect := []
  /-- Why the program has broken off, if it has. -/
  crash : Option Crash := none

namespace Rehearsal

/-- What is still to be done: nothing is started for a request that was given up. -/
def outstanding (r : Rehearsal) : List Effect :=
  if r.viewer.source.isBusy then r.firstEffects else []

/-- Does what the viewer wants done, and lets its feed work for so many milliseconds. -/
def advance (r : Rehearsal) (milliseconds : Nat) (effects : List Effect) : Rehearsal :=
  let (viewer, surroundings) :=
    r.surroundings.advance Viewer.receive milliseconds r.viewer (r.outstanding ++ effects)
  { r with viewer, surroundings, firstEffects := [] }

/-- Goes on from what a handler has left behind. -/
def handled (r : Rehearsal) (h : Handled) : Rehearsal :=
  { r with viewer := h.viewer, files := h.files, crash := r.crash.or h.crash }.advance 0 h.effects

/-- A viewer that is just opened; its feed has not worked yet. -/
def opening (config : ViewerConfig) (session : Session) (catalog : Catalog) (files : Files)
    (surroundings : Surroundings) : Rehearsal :=
  let (viewer, firstEffects) := Viewer.opening config session catalog files
  { viewer, files, surroundings, firstEffects }

/-- Handles an event. -/
def event (r : Rehearsal) (e : FeedEvent) : Rehearsal := r.handled (r.viewer.onEvent r.files e)

/-- Handles a key. -/
def key (r : Rehearsal) (k : Key) : Rehearsal := r.handled (r.viewer.onKey 0 r.files k)

/-- Lets the feed work and handles the events that wait then; returns them too. -/
def pump (r : Rehearsal) : Rehearsal × List FeedEvent :=
  let r := r.advance 0 []
  let events := r.surroundings.inbox
  let emptied := { r with surroundings := { r.surroundings with inbox := [] } }
  (events.foldl event emptied, events)

/-- Ends the program. -/
def shutdown (r : Rehearsal) : Rehearsal := r.handled (r.viewer.shutdown r.files)

end Rehearsal

end SnapshotViewer
