import SnapshotViewer.Feed.Basic

/-!
# Scripted streams

A server of streams that is kept in memory.  Whether the next attempts to connect succeed is
laid down beforehand, and so is what the streams bring.
-/

namespace SnapshotViewer

/-- A stream, seen from the server. -/
structure ScriptedStream where
  /-- What was sent and not yet read. -/
  sent : List (Except ProviderError Frame) := []
  /-- Nothing more will be sent. -/
  ended : Bool := false
  /-- Nobody reads it any more. -/
  dropped : Bool := false

/-- The streams of a server. -/
structure Streams where
  streams : List ScriptedStream := []
  /-- What the next attempts to connect lead to: the number of a stream, or an error. -/
  queue : List (Except ProviderError Nat) := []
  /-- The attempts so far. -/
  attempts : Nat := 0

namespace Streams

/-- Lets an attempt succeed; returns the number of its stream. -/
def accept (x : Streams) : Streams × Nat :=
  ({ x with streams := x.streams ++ [{}], queue := x.queue ++ [.ok x.streams.length] },
    x.streams.length)

/-- Lets an attempt fail. -/
def refuse (x : Streams) (e : ProviderError) : Streams :=
  { x with queue := x.queue ++ [.error e] }

/-- Sends something on a stream; tells whether that was possible. -/
def send (x : Streams) (i : Nat) (item : Except ProviderError Frame) : Streams × Bool :=
  match x.streams[i]? with
  | some s =>
    if s.ended || s.dropped then (x, false)
    else ({ x with streams := x.streams.set i { s with sent := s.sent ++ [item] } }, true)
  | none => (x, false)

/-- Ends a stream. -/
def hangUp (x : Streams) (i : Nat) : Streams :=
  { x with streams := x.streams.modify i fun s => { s with ended := true } }

/-- Drops the reading side of a stream. -/
def drop (x : Streams) (i : Nat) : Streams :=
  { x with streams := x.streams.modify i fun s => { s with dropped := true } }

/-- Attempts to connect. -/
def connect (x : Streams) : Streams × Except ProviderError Nat :=
  ({ x with queue := x.queue.tail, attempts := x.attempts + 1 },
    x.queue.headD (.error (.transport "connection refused")))

/-- What the reader of a stream meets next, if it need not wait. -/
def next? (x : Streams) (i : Nat) : Option (Streams × Signal) :=
  match x.streams[i]? with
  | none => none
  | some s =>
    match s.sent with
    | item :: rest =>
      let signal := match item with
        | .ok f => Signal.frame f
        | .error e => .closed (some e)
      some ({ x with streams := x.streams.set i { s with sent := rest } }, signal)
    | [] => if s.ended then some (x, .closed none) else none

/-- How much was sent and not yet read. -/
def unread (x : Streams) : Nat := x.streams.foldl (fun n s => n + s.sent.length) 0

end Streams

end SnapshotViewer
