import SnapshotViewer.Feed.Basic
import SnapshotViewer.Snapshot.Document

/-!
# The feed of a live server

The server pushes snapshots over a stream.  When the stream breaks, ends or cannot be opened,
the listener is told, and after a while the stream is opened anew.

Snapshots pass through a valve.  While it is shut the newest of them is held back; when it
opens again that one is dropped, so nothing old is ever shown.

A subscription looks whether it was cancelled whenever it waits for something, and not again before
it tells the listener what it has taken from the stream then.  Taking and telling are two steps, and
anything may happen between them.  So a subscription that is cancelled meanwhile still tells what it
has in hand.

## Main definitions

* `Valve`, `Valve.pass`.
* `News` — what a subscription takes from its stream.
* `LiveFeed`, `LiveFeed.start`, `LiveFeed.stop`.
* `LiveFeed.receive` — what a report about a subscription leads to.
* `LiveFeed.run` — all effects of a series of things that happen.
-/

namespace SnapshotViewer

/-- The valve that snapshots pass through. -/
structure Valve where
  paused : Bool := false
  /-- The snapshot that was held back last. -/
  held : Option Snapshot := none
deriving DecidableEq, Repr

namespace Valve

/-- Lets a snapshot pass, or holds it back. -/
def pass (v : Valve) (s : Snapshot) : Valve × Option Snapshot :=
  if v.paused then ({ v with held := some s }, none) else (v, some s)

/-- Shuts the valve. -/
def pause (v : Valve) : Valve := { v with paused := true }

/-- Opens the valve and drops what was held back. -/
def resume (_ : Valve) : Valve := {}

end Valve

/-- The snapshot that an event of the stream carries. -/
def Frame.snapshot? (f : Frame) : Option Snapshot :=
  if f.event = "snapshot" then (Json.decodeText Snapshot.decoder f.data).toOption else none

/-- The error that stands for the end of a stream. -/
def streamClosed : ProviderError := .transport "stream closed"

/-- What a subscription takes from its stream. -/
inductive News where
  | frame (x : Frame)
  /-- The stream broke, ended or could not be opened. -/
  | failure (e : ProviderError)
deriving DecidableEq, Repr

namespace News

/-- The snapshot among the news. -/
def snapshot? : News → Option Snapshot
  | frame x => x.snapshot?
  | failure _ => none

/-- What the listener is to be told.  Frames that carry no snapshot are passed over. -/
def event? : News → Option FeedEvent
  | frame x => x.snapshot?.map .snapshot
  | failure e => some (.transient e)

end News

/-- How far a subscription has come. -/
inductive StreamStage where
  | connecting
  | reading
  /-- The subscription has taken something from the stream, and the listener is to be told of it. -/
  | telling (news : News)
  /-- The subscription waits after an error. -/
  | resting
deriving DecidableEq, Repr

/-- Whether a subscription holds the stream open while it has some news in hand. -/
def News.holdsStream : News → Bool
  | frame _ => true
  | failure _ => false

/-- Whether a subscription holds the stream open at a stage. -/
def StreamStage.holdsStream : StreamStage → Bool
  | reading => true
  | telling news => news.holdsStream
  | connecting | resting => false

/-- The feed of a live server. -/
structure LiveFeed where
  /-- How long to wait after an error, in milliseconds. -/
  delay : Nat := 3000
  valve : Valve := {}
  /-- The subscriptions so far; the newest has this number. -/
  issued : Nat := 0
  /-- The newest subscription has not been cancelled. -/
  subscribed : Bool := false
  /-- How far the newest subscription has come, until it is cancelled. -/
  stage : Option StreamStage := none
  /-- The subscriptions that were cancelled with something in hand, and what that is. -/
  late : List (Nat × News) := []
  /-- Somebody listens to the events. -/
  listening : Bool := true
deriving DecidableEq, Repr

/-- Something that happens to the feed of a live server. -/
inductive LiveOp where
  | start
  | stop
  | pause
  | resume
  | pass (s : Snapshot)
  | deafen
  | receive (subscription : Nat) (s : Signal)

namespace LiveFeed

/-- Whether a subscription is running. -/
def isRunning (f : LiveFeed) : Bool := f.stage.isSome || !f.late.isEmpty

/-- The subscriptions that hold a stream open. -/
def streams (f : LiveFeed) : List Nat :=
  ((f.late.filter (·.2.holdsStream)).map (·.1)) ++
    if f.stage.any (·.holdsStream) then [f.issued] else []

/-- Closes the streams that are not held open any more. -/
def closing (f g : LiveFeed) : List Effect := (f.streams.filter (· ∉ g.streams)).map .close

/-- What a subscription has in hand. -/
def inHand? (f : LiveFeed) (subscription : Nat) : Option News :=
  match f.stage with
  | some (.telling news) =>
    if subscription = f.issued then some news else f.late.lookup subscription
  | _ => f.late.lookup subscription

/-- What cancelled subscriptions have in hand when the newest is cancelled too. -/
def lateWith (f : LiveFeed) : List (Nat × News) :=
  match f.stage with
  | some (.telling news) => (f.issued, news) :: f.late
  | _ => f.late

/-- Cancels the subscription. -/
def stop (f : LiveFeed) : LiveFeed × List Effect :=
  let g := { f with subscribed := false, stage := none, late := f.lateWith }
  (g, f.closing g)

/-- Starts a subscription in place of the one before. -/
def start (f : LiveFeed) : LiveFeed × List Effect :=
  let g := { f with
    issued := f.issued + 1
    subscribed := true
    stage := some .connecting
    late := f.lateWith }
  (g, f.closing g ++ [.connect g.issued])

/-- Shuts the valve. -/
def pause (f : LiveFeed) : LiveFeed := { f with valve := f.valve.pause }

/-- Opens the valve. -/
def resume (f : LiveFeed) : LiveFeed := { f with valve := f.valve.resume }

/-- Lets a snapshot pass, or holds it back. -/
def pass (f : LiveFeed) (s : Snapshot) : LiveFeed × Option Snapshot :=
  let (valve, s?) := f.valve.pass s
  ({ f with valve }, s?)

/-- Nobody listens any more. -/
def deafen (f : LiveFeed) : LiveFeed := { f with listening := false }

/-- Takes something from the stream. -/
def take (f : LiveFeed) (news : News) : LiveFeed × List Effect :=
  ({ f with stage := some (.telling news) }, [.yield f.issued])

/-- Lets news through to the listener; only the valve holds anything back. -/
def letThrough (f : LiveFeed) (news : News) : LiveFeed × Option FeedEvent :=
  match news.snapshot? with
  | some s => let (f, s?) := f.pass s; (f, s?.map .snapshot)
  | none => (f, news.event?)

/-- Tells the listener, if there is one. -/
def say (f : LiveFeed) (subscription : Nat) (e? : Option FeedEvent) : List Effect :=
  if f.listening then (e?.map (.send subscription)).toList else []

/-- The newest subscription tells what it has in hand, and goes on.  One that finds nobody to tell
is pointless and ends. -/
def tell (f : LiveFeed) (news : News) : LiveFeed × List Effect :=
  let (g, e?) := f.letThrough news
  if e?.isSome && !g.listening then ({ g with stage := none }, [])
  else
    match news with
    | .frame _ => ({ g with stage := some .reading }, g.say g.issued e?)
    | .failure _ =>
      ({ g with stage := some .resting }, g.say g.issued e? ++ [.sleep g.issued g.delay])

/-- A cancelled subscription tells what it has in hand, and ends. -/
def tellLate (f : LiveFeed) (subscription : Nat) (news : News) : LiveFeed × List Effect :=
  let (g, e?) := f.letThrough news
  ({ g with late := g.late.filter (·.1 ≠ subscription) }, g.say subscription e?)

/-- A subscription goes on with what it has in hand. -/
def goOn (f : LiveFeed) (subscription : Nat) : LiveFeed × List Effect :=
  match f.inHand? subscription with
  | none => (f, [])
  | some news =>
    if f.stage = some (.telling news) ∧ subscription = f.issued then f.tell news
    else f.tellLate subscription news

/-- What another report about the newest subscription leads to. -/
def receiveCurrent (f : LiveFeed) : StreamStage → Signal → LiveFeed × List Effect
  | .connecting, .connected (.ok ()) => ({ f with stage := some .reading }, [])
  | .connecting, .connected (.error e) => f.take (.failure e)
  | .reading, .frame frame => f.take (.frame frame)
  | .reading, .closed error => f.take (.failure (error.getD streamClosed))
  | .resting, .due => ({ f with stage := some .connecting }, [.connect f.issued])
  | _, _ => (f, [])

/-- What a report about a subscription leads to, apart from the closing of streams.  One that was
cancelled hears nothing more; it only gets its turn. -/
def react (f : LiveFeed) (subscription : Nat) : Signal → LiveFeed × List Effect
  | .turn => f.goOn subscription
  | s =>
    match f.stage with
    | some stage => if subscription = f.issued then f.receiveCurrent stage s else (f, [])
    | none => (f, [])

/-- What a report about a subscription leads to. -/
def receive (f : LiveFeed) (subscription : Nat) (s : Signal) : LiveFeed × List Effect :=
  let (g, effects) := f.react subscription s
  (g, effects ++ f.closing g)

/-- What something that happens leads to. -/
def apply (f : LiveFeed) : LiveOp → LiveFeed × List Effect
  | .start => f.start
  | .stop => f.stop
  | .pause => (f.pause, [])
  | .resume => (f.resume, [])
  | .pass s => ((f.pass s).1, [])
  | .deafen => (f.deafen, [])
  | .receive n s => f.receive n s

/-- All effects of a series of things that happen. -/
def run (f : LiveFeed) : List LiveOp → LiveFeed × List Effect
  | [] => (f, [])
  | op :: rest =>
    let (f, now) := f.apply op
    let (f, later) := run f rest
    (f, now ++ later)

end LiveFeed

end SnapshotViewer
