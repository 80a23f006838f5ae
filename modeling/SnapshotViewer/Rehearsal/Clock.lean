import SnapshotViewer.Rehearsal.Archive
import SnapshotViewer.Rehearsal.Streams

/-!
# Feeds on a clock

The surroundings that a feed needs, kept in memory: a clock that moves only when it is told to,
an archive, streams, and an inbox for what the listener is told.  At any moment at most one
request is under way, so at most one report is expected at a known time.

## Main definitions

* `Surroundings`, `Surroundings.perform`, `Surroundings.next?`.
* `Surroundings.run` — lets a feed work until a moment.
-/

namespace SnapshotViewer

/-- The surroundings of a feed. -/
structure Surroundings where
  /-- The milliseconds that have passed. -/
  clock : Nat := 0
  archive : Archive := {}
  streams : Streams := {}
  /-- A report that is expected: its time and its request. -/
  alarm : Option (Nat × Nat × Signal) := none
  /-- The open stream and its request. -/
  reading : Option (Nat × Nat) := none
  /-- What the listener was told and has not yet handled. -/
  inbox : List FeedEvent := []

namespace Surroundings

/-- Expects a report. -/
def expect (w : Surroundings) (delay request : Nat) (s : Signal) : Surroundings :=
  { w with alarm := some (w.clock + delay, request, s) }

/-- Does what a feed wants done. -/
def perform (w : Surroundings) : Effect → Surroundings
  | .send _ e => { w with inbox := w.inbox ++ [e] }
  | .sleep n ms => w.expect ms n .due
  | .fetch n q =>
    let (archive, latency, answer) := w.archive.fetch q
    { w with archive }.expect latency n (.fetched answer)
  | .connect n =>
    match w.streams.connect with
    | (streams, .ok i) =>
      { w with streams, reading := some (n, i) }.expect 0 n (.connected (.ok ()))
    | (streams, .error e) => { w with streams }.expect 0 n (.connected (.error e))
  | .close n =>
    match w.reading with
    | some (m, i) =>
      if m = n then { w with streams := w.streams.drop i, reading := none } else w
    | none => w
  | .yield n => w.expect 0 n .turn

/-- The next report up to a moment, and the surroundings then. -/
def next? (w : Surroundings) (limit : Nat) : Option (Surroundings × Nat × Signal) :=
  match w.alarm with
  | some (due, n, s) =>
    if due ≤ limit then some ({ w with clock := max w.clock due, alarm := none }, n, s) else none
  | none =>
    match w.reading with
    | some (n, i) => (w.streams.next? i).map fun (streams, s) => ({ w with streams }, n, s)
    | none => none

/-- More than the number of reports up to a moment, for a feed that rests before it connects
again: a request passes four stages, and for what a stream brings there are two reports. -/
def bound (w : Surroundings) (limit : Nat) : Nat :=
  4 * (limit + 2 - w.clock) + 2 * w.streams.unread

/-- Lets a feed work until a moment, for so many reports at most. -/
def run {σ : Type} (receive : σ → Nat → Signal → σ × List Effect) (limit : Nat) :
    (fuel : Nat) → σ → Surroundings → σ × Surroundings
  | 0, f, w => (f, w)
  | fuel + 1, f, w =>
    match w.next? limit with
    | none => (f, { w with clock := max w.clock limit })
    | some (w, n, s) =>
      let (f, effects) := receive f n s
      run receive limit fuel f (effects.foldl perform w)

/-- Does what a feed wants done, and lets it work for so many milliseconds. -/
def advance {σ : Type} (receive : σ → Nat → Signal → σ × List Effect) (milliseconds : Nat)
    (f : σ) (effects : List Effect) (w : Surroundings) : σ × Surroundings :=
  let w := effects.foldl perform w
  let limit := w.clock + milliseconds
  run receive limit (w.bound limit) f w

end Surroundings

end SnapshotViewer
