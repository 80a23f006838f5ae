import SnapshotViewer.Feed.History
import SnapshotViewer.Feed.Live
import SnapshotViewer.Keyboard
import SnapshotViewer.Storage.AddressFile
import SnapshotViewer.Store

/-!
# The viewer

The whole state of the program while it runs: what is shown, how the user moves about in it, and
where the news come from.  Events of the feed and keys are handled one at a time, and after each
of them the address is saved if it has changed.

Files belong to the surroundings: a handler is given those it finds and returns those it leaves,
so anything may happen to them between two handlers.

A key may ask for a moment that does not exist, and then the program breaks off; everything else
that is handled is handled to the end.

## Main definitions

* `Source`, `Viewer`.
* `Viewer.onEvent`, `Viewer.onKey`, `Viewer.shutdown` — the handlers.
-/

namespace SnapshotViewer

/-- Where the snapshots come from. -/
inductive Source where
  | live (feed : LiveFeed)
  | history (feed : HistoryFeed)
deriving DecidableEq, Repr

namespace Source

/-- Whether the snapshots come from a live server. -/
def isLive : Source → Bool
  | live _ => true
  | history _ => false

/-- Whether a live feed is paused. -/
def isPaused : Source → Bool
  | live f => f.valve.paused
  | history _ => false

/-- Whether a request is under way. -/
def isBusy : Source → Bool
  | live f => f.isRunning
  | history f => f.hasPending

/-- What a report about a request leads to. -/
def receive (x : Source) (request : Nat) (s : Signal) : Source × List Effect :=
  match x with
  | live f => let (f, effects) := f.receive request s; (live f, effects)
  | history f => let (f, effects) := f.receive request s; (history f, effects)

/-- Lets a snapshot pass, or holds it back; only a live feed does that. -/
def pass (x : Source) (s : Snapshot) : Source × Option Snapshot :=
  match x with
  | live f => let (f, s?) := f.pass s; (live f, s?)
  | history _ => (x, some s)

/-- Closes a live stream; a history has none. -/
def stopStream : Source → Source × List Effect
  | live f => let (f, effects) := f.stop; (live f, effects)
  | history f => (history f, [])

/-- Ends the feed for good. -/
def shutdown : Source → Source × List Effect
  | live f => let (f, effects) := f.stop; (live f, effects)
  | history f => (history f.shutdown, [])

end Source

/-- How things stand with the server. -/
inductive Connection where
  /-- There was no snapshot yet. -/
  | connecting
  | connected
  /-- The stream broke and will be opened anew. -/
  | reconnecting
  /-- The server wants a credential, or another one; the stream is closed. -/
  | reauthRequired
deriving DecidableEq, Repr

/-- What is said when the server wants a credential, or another one. -/
def reauthNotice : String := "Authentication required: restart with --token or --user/--password"

/-- The state of the program. -/
structure Viewer where
  nav : Navigator
  store : Store := {}
  input : InputState
  source : Source
  session : Session
  /-- The path of the address file, if there is to be one. -/
  addressFile : Option Path
  connection : Connection := .connecting
  quitting : Bool := false
deriving DecidableEq, Repr

/-- What a handler leaves behind. -/
structure Handled where
  viewer : Viewer
  files : Files
  effects : List Effect := []
  /-- Whether the address could be saved; `none` when nothing was to be saved. -/
  saved : Option Bool := none
  /-- Why the program broke off in the middle of the handler, if it did. -/
  crash : Option Crash := none

namespace Viewer

/-- The program at its start. -/
def start (nav : Navigator) (source : Source) (session : Session) (addressFile : Option Path) :
    Viewer :=
  { nav, input := { isLive := source.isLive }, source, session, addressFile }

/-- Whether the live feed is paused. -/
def isPaused (v : Viewer) : Bool := v.source.isPaused

/-- Saves the address if it has changed since it was last saved.  One that could not be saved
counts as saved. -/
def persist (v : Viewer) (files : Files) : Handled :=
  match v.nav.takeUpdate with
  | (nav, none) => { viewer := { v with nav }, files }
  | (nav, some address) =>
    match v.addressFile with
    | some path =>
      let (files, saved) := AddressFile.save files path address
      { viewer := { v with nav }, files, saved }
    | none => { viewer := { v with nav }, files }

/-- What a report about a request leads to. -/
def receive (v : Viewer) (request : Nat) (s : Signal) : Viewer × List Effect :=
  let (source, effects) := v.source.receive request s
  ({ v with source }, effects)

/-- Ends a handler: saves the address. -/
def handled (result : Viewer × List Effect) (files : Files) : Handled :=
  { result.1.persist files with effects := result.2 }

/-- The connection after news from the server: a demand for a credential stands. -/
def reached (v : Viewer) (c : Connection) : Viewer :=
  if v.connection = .reauthRequired then v else { v with connection := c }

/-- Asks the user for a credential and closes the stream, unless that has happened before. -/
def requireReauth (v : Viewer) : Viewer × List Effect :=
  if v.connection = .reauthRequired then (v, [])
  else
    let (source, effects) := v.source.stopStream
    ({ v with source, connection := .reauthRequired, store := v.store.setError reauthNotice },
      effects)

/-- Shows a snapshot. -/
def accept (v : Viewer) (s : Snapshot) : Viewer :=
  if v.store.accepts then
    { v with store := v.store.replace s, nav := v.nav.onSnapshot s }.reached .connected
  else v

/-- Handles an error of the stream. -/
def onTransient (v : Viewer) (e : ProviderError) : Viewer × List Effect :=
  match v.session.reaction e with
  | .reauthenticate => v.requireReauth
  | .awaitReconnect => (v.reached .reconnecting, [])

/-- Handles the final failure of a request. -/
def onFailure (v : Viewer) (e : ProviderError) : Viewer × List Effect :=
  if e = .unauthorized then v.requireReauth
  else ({ v with store := v.store.setError e.message }, [])

/-- Handles an event of the feed.  A snapshot that is held back changes nothing, and the address
is not saved then. -/
def onEvent (v : Viewer) (files : Files) : FeedEvent → Handled
  | .snapshot s =>
    match v.source.pass s with
    | (source, none) => { viewer := { v with source }, files }
    | (source, some s) => handled ({ v with source }.accept s, []) files
  | .transient e => handled (v.onTransient e) files
  | .failed e => handled (v.onFailure e) files

/-- Pauses the live feed or goes on with it.  The address holds the moment of a paused
snapshot. -/
def togglePause (v : Viewer) : Viewer :=
  match v.source with
  | .history _ => v
  | .live f =>
    if f.valve.paused then
      { v with source := .live f.resume, nav := v.nav.setTimestamp none }
    else
      { v with
        source := .live f.pause
        nav := v.nav.setTimestamp (v.store.current.map (·.timestamp)) }

/-- What is said at an end of the timeline. -/
def edgeText : HistoryStep → String
  | .back | .hourBack => "At the first snapshot"
  | .forward | .hourForward => "At the latest snapshot"

/-- Does what a move along the timeline has come to, or says that there is nowhere to go. -/
def moved (v : Viewer) (step : HistoryStep) :
    Option (HistoryFeed × List Effect) → Viewer × List Effect
  | some (f, effects) => ({ v with source := .history f }, effects)
  | none => ({ v with input := { v.input with status := some (edgeText step) } }, [])

/-- Moves along the timeline from the snapshot that is shown. -/
def moveInTime (v : Viewer) (step : HistoryStep) : Except Crash (Viewer × List Effect) :=
  match v.source, v.store.current with
  | .history f, some s => (f.step? s step).map (v.moved step)
  | _, _ => .ok (v, [])

/-- Jumps to a moment of the timeline. -/
def jumpTo (v : Viewer) (timestamp : Int) : Viewer × List Effect :=
  match v.source with
  | .history f =>
    let (f, effects) := f.jump timestamp (some .floor)
    ({ v with source := .history f }, effects)
  | .live _ => (v, [])

/-- Does what a key asks for. -/
def perform (v : Viewer) : KeyAction → Except Crash (Viewer × List Effect)
  | .none => .ok (v, [])
  | .quit => .ok ({ v with quitting := true }, [])
  | .togglePause => .ok (v.togglePause, [])
  | .historyStep step => v.moveInTime step
  | .jumpTo timestamp => .ok (v.jumpTo timestamp)

/-- The viewer when the keyboard and the navigator have taken in a key that is pressed at the moment
`now`. -/
def pressed (now : Int) (v : Viewer) (k : Key) : Viewer :=
  let r := v.input.handleKey now v.nav k
  { v with input := r.input, nav := r.nav }

/-- Handles a key that is pressed at the moment `now`.  A program that breaks off there has saved
nothing and done nothing of what the key asks for. -/
def onKey (now : Int) (v : Viewer) (files : Files) (k : Key) : Handled :=
  match (pressed now v k).perform (v.input.handleKey now v.nav k).action with
  | .ok result => handled result files
  | .error crash => { viewer := pressed now v k, files, crash }

/-- Ends the program: the address is saved, and nothing is shown any more. -/
def shutdown (v : Viewer) (files : Files) : Handled :=
  let h := v.persist files
  let (source, effects) := h.viewer.source.shutdown
  { h with viewer := { h.viewer with source, store := h.viewer.store.close }, effects }

end Viewer

end SnapshotViewer
