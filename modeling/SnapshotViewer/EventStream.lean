import SnapshotViewer.Text.Utf8

/-!
# Event streams

A server pushes its news as text in lines.  A line `event: name` names the event that is being
written, each line `data: text` adds a line to its data, and an empty line sends it off; lines
that start with a colon are comments and all other fields are ignored.  Lines end in a line
feed, with or without a carriage return before it.

The bytes come in pieces that may be cut anywhere, so the decoder keeps those of the line that it
has not seen the end of.  Each piece is put behind them, the whole lines are taken off the front,
and what is left is kept again.  Bytes are read as text one whole line at a time.

## Main definitions

* `Frame` — an event with its data.
* `FrameDecoder.cutLines`, `FrameDecoder.takeLines` — the whole lines, and the events they complete.
* `FrameDecoder.feed`, `FrameDecoder.feedAll` — one piece, or many.
-/

namespace SnapshotViewer

/-- An event of a stream. -/
structure Frame where
  event : String
  data : String
deriving DecidableEq, Repr

/-- What is known of the stream after some of its bytes. -/
structure FrameDecoder where
  /-- The bytes of the unfinished line. -/
  buffer : List UInt8 := []
  /-- The name of the unfinished event. -/
  event : Option String := none
  /-- The lines of data of the unfinished event. -/
  data : List String := []
deriving DecidableEq, Repr

namespace FrameDecoder

/-- The name of an event that has none. -/
def defaultEvent : String := "message"

/-- The field and value of a line that is neither empty nor a comment: they are parted by the
first colon, and one blank behind it does not count. -/
def splitField (line : List Char) : List Char × List Char :=
  let field := line.takeWhile (· != ':')
  match line.drop (field.length + 1) with
  | ' ' :: value => (field, value)
  | value => (field, value)

/-- Ends the event: without data there is none. -/
def dispatch (d : FrameDecoder) : FrameDecoder × Option Frame :=
  let name := match d.event with
    | some e => if e.isEmpty then defaultEvent else e
    | none => defaultEvent
  let frame := if d.data.isEmpty then none else some ⟨name, String.intercalate "\n" d.data⟩
  ({ d with event := none, data := [] }, frame)

/-- Takes a whole line. -/
def takeLine (d : FrameDecoder) (line : List Char) : FrameDecoder × Option Frame :=
  match line with
  | [] => d.dispatch
  | ':' :: _ => (d, none)
  | line =>
    let (field, value) := splitField line
    if field = "event".toList then ({ d with event := some (String.ofList value) }, none)
    else if field = "data".toList then ({ d with data := d.data ++ [String.ofList value] }, none)
    else (d, none)

/-- The text of a line.  A carriage return at its end does not count. -/
def lineText (line : List UInt8) : String :=
  Text.decode (if line.getLast? = some 0x0D then line.dropLast else line)

/-- Puts a byte in front of some whole lines and of the unfinished line behind them. -/
def prepend (b : UInt8) : List (List UInt8) × List UInt8 → List (List UInt8) × List UInt8
  | (lines, unfinished) =>
    if b = 0x0A then ([] :: lines, unfinished)
    else
      match lines with
      | [] => ([], b :: unfinished)
      | line :: lines => ((b :: line) :: lines, unfinished)

/-- The whole lines that some bytes begin with, without their line feeds, and the bytes of the
unfinished line behind them. -/
def cutLines (bytes : List UInt8) : List (List UInt8) × List UInt8 := bytes.foldr prepend ([], [])

/-- Takes whole lines; returns the events that they complete. -/
def takeLines (d : FrameDecoder) : List (List UInt8) → FrameDecoder × List Frame
  | [] => (d, [])
  | line :: rest =>
    let (d, frame) := d.takeLine (lineText line).toList
    let (d, frames) := takeLines d rest
    (d, frame.toList ++ frames)

/-- Takes the next piece of the stream; returns the events that it completes. -/
def feed (d : FrameDecoder) (piece : List UInt8) : FrameDecoder × List Frame :=
  let (lines, unfinished) := cutLines (d.buffer ++ piece)
  let (d, frames) := d.takeLines lines
  ({ d with buffer := unfinished }, frames)

/-- Takes pieces of the stream one after the other; returns the events that they complete. -/
def feedAll (d : FrameDecoder) : List (List UInt8) → FrameDecoder × List Frame
  | [] => (d, [])
  | piece :: rest =>
    let (d, frames) := d.feed piece
    let (d, more) := feedAll d rest
    (d, frames ++ more)

end FrameDecoder

end SnapshotViewer
