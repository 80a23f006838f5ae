import SnapshotViewer.Feed.Basic

/-!
# The feed of a recorded history

Snapshots are fetched one at a time.  Only the newest request counts: a new one takes the place
of the one before, whatever stage that had reached.

A jump first waits a moment, so of many jumps in a row only the last asks the server; when the
server fails, the latest snapshot is asked for instead.  The first load asks at once, and when
the server fails it waits and asks the same again.  Either way the second failure is final.

Each request goes its own way, and many of them may be on their way at once.  One that is
cancelled does nothing more, whatever it is told.  A request is cancelled when a newer one takes
its place, when the feed is shut down, and when it has led to an event; so the newest request is
cancelled exactly if there is nothing left to wait for.

## Main definitions

* `HistoryRequest`, `HistoryTask` — what is asked for, and how far that has come.
* `HistoryTask.receive` — what a report makes a request do.
* `HistoryFeed`, `HistoryFeed.load`, `HistoryFeed.jump`, `HistoryFeed.shutdown`.
* `HistoryFeed.receive` — what a report about a request leads to.
* `HistoryFeed.run` — all effects of a series of things that happen.
-/

namespace SnapshotViewer

/-- What a request is for. -/
inductive HistoryRequest where
  /-- The first load. -/
  | load (query : Query)
  | jump (query : Query)
deriving DecidableEq, Repr

namespace HistoryRequest

/-- What is asked for first. -/
def first : HistoryRequest → Query
  | load q | jump q => q

/-- What is asked for when that has failed. -/
def second : HistoryRequest → Query
  | load q => q
  | jump _ => Query.latest

end HistoryRequest

/-- How far a request has come. -/
inductive HistoryStage where
  /-- A jump waits for further ones. -/
  | settling
  | firstFetch
  /-- The first load waits after a failure. -/
  | resting
  | secondFetch
deriving DecidableEq, Repr

/-- A request on its way. -/
structure HistoryTask where
  request : HistoryRequest
  stage : HistoryStage
  /-- The request was given up, or it has led to an event. -/
  cancelled : Bool := false
deriving DecidableEq, Repr

namespace HistoryTask

/-- Gives a request up. -/
def cancel (t : HistoryTask) : HistoryTask := { t with cancelled := true }

/-- Brings a request to a stage. -/
def enter (t : HistoryTask) (stage : HistoryStage) (effect : Effect) :
    HistoryTask × List Effect :=
  ({ t with stage }, [effect])

/-- Ends a request with an event. -/
def finish (t : HistoryTask) (n : Nat) (e : FeedEvent) : HistoryTask × List Effect :=
  (t.cancel, [.send n e])

/-- What a report makes the request with the number `n` do; `delay` is how long the first load
waits after a failure. -/
def receive (t : HistoryTask) (n delay : Nat) (s : Signal) : HistoryTask × List Effect :=
  match t.stage, s with
  | .settling, .due => t.enter .firstFetch (.fetch n t.request.first)
  | .resting, .due => t.enter .secondFetch (.fetch n t.request.second)
  | .firstFetch, .fetched (.ok s) | .secondFetch, .fetched (.ok s) => t.finish n (.snapshot s)
  | .firstFetch, .fetched (.error _) =>
    match t.request with
    | .load _ => t.enter .resting (.sleep n delay)
    | .jump _ => t.enter .secondFetch (.fetch n t.request.second)
  | .secondFetch, .fetched (.error e) => t.finish n (.failed e)
  | _, _ => (t, [])

end HistoryTask

/-- The feed of a recorded history. -/
structure HistoryFeed where
  /-- How long a jump waits, in milliseconds. -/
  debounce : Nat := 50
  /-- How long the first load waits after a failure, in milliseconds. -/
  retryDelay : Nat := 2000
  /-- The requests so far, in order.  They are numbered from zero on. -/
  tasks : List HistoryTask := []
  /-- The number of the newest request. -/
  newest : Option Nat := none
  stopped : Bool := false
deriving DecidableEq, Repr

/-- Something that happens to the feed of a history. -/
inductive HistoryOp where
  | load (timestamp : Option Int)
  | jump (timestamp : Int) (direction : Option Direction)
  | shutdown
  | receive (request : Nat) (s : Signal)

namespace HistoryFeed

/-- Whether a request does nothing more: it was cancelled, or the whole feed was. -/
def isCancelled (f : HistoryFeed) (n : Nat) : Bool :=
  f.stopped || f.tasks[n]?.any (·.cancelled)

/-- Whether the newest request has not led to an event yet. -/
def hasPending (f : HistoryFeed) : Bool := f.newest.any fun n => !f.isCancelled n

/-- The requests after the newest one is given up. -/
def tasksGivenUp (f : HistoryFeed) : List HistoryTask :=
  match f.newest with
  | some n => f.tasks.modify n HistoryTask.cancel
  | none => f.tasks

/-- The feed with a new request in place of the one before. -/
def supersede (f : HistoryFeed) (request : HistoryRequest) (stage : HistoryStage) : HistoryFeed :=
  { f with tasks := f.tasksGivenUp ++ [{ request, stage }], newest := some f.tasks.length }

/-- What the first load asks for. -/
def loadQuery : Option Int → Query
  | some t => Query.near t (some .floor)
  | none => .latest

/-- Starts the first load. -/
def load (f : HistoryFeed) (timestamp : Option Int) : HistoryFeed × List Effect :=
  if f.stopped then (f, [])
  else
    (f.supersede (.load (loadQuery timestamp)) .firstFetch,
      [.fetch f.tasks.length (loadQuery timestamp)])

/-- Starts a jump. -/
def jump (f : HistoryFeed) (timestamp : Int) (direction : Option Direction) :
    HistoryFeed × List Effect :=
  if f.stopped then (f, [])
  else
    (f.supersede (.jump (.near timestamp direction)) .settling,
      [.sleep f.tasks.length f.debounce])

/-- Moves along the timeline from a snapshot; `none` when there is nowhere to go. -/
def step? (f : HistoryFeed) (current : Snapshot) (step : HistoryStep) :
    Except Crash (Option (HistoryFeed × List Effect)) :=
  (step.target? current).map (Option.map fun (t, direction) => f.jump t (some direction))

/-- Gives up everything, for good. -/
def shutdown (f : HistoryFeed) : HistoryFeed := { f with newest := none, stopped := true }

/-- What a report about a request leads to. -/
def receive (f : HistoryFeed) (request : Nat) (s : Signal) : HistoryFeed × List Effect :=
  match f.tasks[request]? with
  | some t =>
    if f.isCancelled request then (f, [])
    else
      let (t, effects) := t.receive request f.retryDelay s
      ({ f with tasks := f.tasks.set request t }, effects)
  | none => (f, [])

/-- What something that happens leads to. -/
def apply (f : HistoryFeed) : HistoryOp → HistoryFeed × List Effect
  | .load t => f.load t
  | .jump t d => f.jump t d
  | .shutdown => (f.shutdown, [])
  | .receive n s => f.receive n s

/-- All effects of a series of things that happen. -/
def run (f : HistoryFeed) : List HistoryOp → HistoryFeed × List Effect
  | [] => (f, [])
  | op :: rest =>
    let (f, now) := f.apply op
    let (f, later) := run f rest
    (f, now ++ later)

end HistoryFeed

end SnapshotViewer
