import SnapshotViewer.EventStream
import SnapshotViewer.Session
import SnapshotViewer.Timeline

/-!
# Feeds

A feed brings snapshots.  It does nothing by itself: it is told what has happened and answers
with what is to be done, so a feed is a function and all waiting is left to its surroundings.
Whatever is under way belongs to a numbered request, and the reports about a request carry its
number; a feed passes over reports about requests that it has given up.

## Main definitions

* `Query` — which snapshot is asked for.
* `FeedEvent` — what a feed tells its listener.
* `Effect`, `Signal` — what a feed wants done, and what it is told.
-/

namespace SnapshotViewer

/-- Which snapshot is asked for: the one near a moment, or the latest. -/
structure Query where
  timestamp : Option Int := none
  direction : Option Direction := none
deriving DecidableEq, Repr

namespace Query

/-- The latest snapshot. -/
def latest : Query := {}

/-- The snapshot near a moment; without a direction the server chooses one. -/
def near (timestamp : Int) (direction : Option Direction) : Query := ⟨some timestamp, direction⟩

/-- Whether the latest snapshot is asked for. -/
def isLatest (q : Query) : Bool := q.timestamp.isNone

end Query

/-- What a feed tells its listener. -/
inductive FeedEvent where
  | snapshot (s : Snapshot)
  /-- The stream broke; the feed goes on. -/
  | transient (e : ProviderError)
  /-- The feed has given up the request. -/
  | failed (e : ProviderError)
deriving DecidableEq, Repr

/-- What a feed wants done for a request. -/
inductive Effect where
  /-- Tell the listener. -/
  | send (request : Nat) (event : FeedEvent)
  /-- Report when so many milliseconds have passed. -/
  | sleep (request : Nat) (milliseconds : Nat)
  /-- Ask the server for a snapshot and report its answer. -/
  | fetch (request : Nat) (query : Query)
  /-- Open a stream, report whether that succeeded and then what comes. -/
  | connect (request : Nat)
  /-- Close the stream. -/
  | close (request : Nat)
  /-- Report when it is the turn of the request to go on. -/
  | yield (request : Nat)
deriving DecidableEq, Repr

/-- What a feed is told about a request. -/
inductive Signal where
  /-- The time to sleep is over. -/
  | due
  /-- The server has answered. -/
  | fetched (answer : Except ProviderError Snapshot)
  /-- The stream is open, or it could not be opened. -/
  | connected (outcome : Except ProviderError Unit)
  /-- An event of the stream. -/
  | frame (f : Frame)
  /-- The stream broke, or without an error it came to its end. -/
  | closed (error : Option ProviderError)
  /-- The request goes on with what it has in hand. -/
  | turn

/-- The events among some effects. -/
def Effect.events (effects : List Effect) : List FeedEvent :=
  effects.filterMap fun
    | .send _ e => some e
    | _ => none

end SnapshotViewer
