import SnapshotViewer.Viewer.Run

/-!
# A viewer and its inbox

What a feed sends waits in an inbox until the viewer gets round to it, first come, first served.
The feed goes on working meanwhile, and keys are pressed, so a client is a viewer with such an
inbox, and all these things happen to it in any order.

Two snapshots may have the same content.  What waits is therefore numbered by the report that the
feed was given when it came; nothing depends on the numbers.

## Main definitions

* `Client`, `Client.start`.
* `ClientOp`, `Client.apply`, `Client.run` — what can happen to a client.
* `Arrival` — a snapshot that has come in, and the number of its report.
-/

namespace SnapshotViewer

/-- A viewer, the files around it, and what its feed has sent. -/
structure Client where
  viewer : Viewer
  files : Files
  /-- The events that the viewer has not handled yet, the oldest first. -/
  inbox : List (Nat × FeedEvent) := []
  /-- How many reports the feed was given. -/
  reports : Nat := 0

/-- Something that happens to a client. -/
inductive ClientOp where
  /-- The feed is told something about a request. -/
  | report (request : Nat) (s : Signal)
  /-- The viewer handles the oldest event of the inbox. -/
  | handle
  /-- A key is pressed at the moment `now`. -/
  | key (now : Int) (k : Key)

/-- A snapshot that has come in. -/
structure Arrival where
  /-- The number of the report that it came with. -/
  number : Nat
  snapshot : Snapshot
deriving DecidableEq, Repr

/-- The snapshot that an event of the inbox carries. -/
def Arrival.ofEvent? : Nat × FeedEvent → Option Arrival
  | (number, .snapshot snapshot) => some { number, snapshot }
  | _ => none

/-- The snapshot that a report brings to the valve: it is the turn of a subscription that has one in
hand. -/
def LiveFeed.arrival? (f : LiveFeed) (subscription : Nat) : Signal → Option Snapshot
  | .turn => (f.inHand? subscription).bind News.snapshot?
  | _ => none

/-- The snapshot that a report brings to the valve of a live feed. -/
def Source.arrival? (x : Source) (request : Nat) (s : Signal) : Option Snapshot :=
  match x with
  | .live f => f.arrival? request s
  | .history _ => none

/-- The valve of a live feed. -/
def Source.valve? : Source → Option Valve
  | .live f => some f.valve
  | .history _ => none

namespace Client

/-- A client at its start: nothing has been sent yet. -/
def start (viewer : Viewer) (files : Files) : Client := { viewer, files }

/-- Puts the events among some effects into the inbox, under the number of the last report. -/
def send (c : Client) (effects : List Effect) : Client :=
  { c with inbox := c.inbox ++ (Effect.events effects).map (c.reports, ·) }

/-- Goes on from what a handler has left behind. -/
def handled (c : Client) (h : Handled) : Client :=
  { c with viewer := h.viewer, files := h.files }.send h.effects

/-- The client after something has happened. -/
def apply (c : Client) : ClientOp → Client
  | .report n s =>
    let (viewer, effects) := c.viewer.receive n s
    { c with viewer, reports := c.reports + 1 }.send effects
  | .handle =>
    match c.inbox with
    | [] => c
    | (_, e) :: rest => { c with inbox := rest }.handled (c.viewer.onEvent c.files e)
  | .key now k => c.handled (Viewer.onKey now c.viewer c.files k)

/-- The client after several things have happened. -/
def run (c : Client) (ops : List ClientOp) : Client := ops.foldl apply c

/-- The snapshot that the feed holds back. -/
def held? (c : Client) : Option Snapshot := c.viewer.source.valve?.bind (·.held)

/-- The snapshot that comes in at the feed. -/
def arrival? (c : Client) : ClientOp → Option Arrival
  | .report n s => (c.viewer.source.arrival? n s).map (⟨c.reports + 1, ·⟩)
  | _ => none

/-- The snapshot that the viewer takes out of the inbox. -/
def taken? (c : Client) : ClientOp → Option Arrival
  | .handle => c.inbox.head?.bind Arrival.ofEvent?
  | _ => none

/-- The snapshots that wait in the inbox. -/
def waiting (c : Client) : List Arrival := c.inbox.filterMap Arrival.ofEvent?

end Client

end SnapshotViewer
