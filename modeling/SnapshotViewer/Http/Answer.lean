import SnapshotViewer.Catalog.Document
import SnapshotViewer.Http.Request
import SnapshotViewer.Snapshot.Document

/-!
# Answers

What the answers of a server mean.  The status comes first: a refusal is an error whatever else
the answer holds.  A document is read when it is there as a whole, a stream as it comes.

An answer can also lead on: with some statuses a server says where else to ask.

## Main definitions

* `Answer`, `Answer.onward?`, `Answer.body`.
* `readDocument`, `readStream` — what an answer to a request means.
-/

namespace SnapshotViewer

/-- The answer of a server. -/
structure Answer where
  status : Nat
  /-- The bytes behind the head, as they came. -/
  chunks : List (List UInt8)
  /-- The connection broke before the end. -/
  cut : Bool := false
  /-- Where else to ask, if the server says so and it is a text. -/
  location : Option String := none
deriving DecidableEq, Repr

/-- The statuses with which a server says where else to ask. -/
def redirectStatuses : List Nat := [301, 302, 303, 307, 308]

/-- Where an answer leads on to.  An address that cannot be read leads nowhere; one of another kind
than the web's does, but nothing can be asked for there. -/
def Answer.onward? (r : Request) (a : Answer) : Option (Except ProviderError Url) :=
  if a.status ∈ redirectStatuses then
    a.location.bind fun l =>
      match r.url.join l with
      | .ok u => some (.ok u)
      | .error (.unsuitable u) => some (.error (builderError (some u)))
      | .error .unreadable => none
  else none

/-- The bytes behind the head of an answer, and the error behind them. -/
structure Body where
  chunks : List (List UInt8)
  error : Option ProviderError := none
deriving DecidableEq, Repr

/-- The body of the answer to a request; a server that closes the connection gives none. -/
def Answer.body (r : Request) : Option Answer → Except ProviderError Body
  | none => .error r.unanswered
  | some a =>
    if a.status < 101 ∨ (101 < a.status ∧ a.status < 200) ∨ a.status > 999 then
      .error r.unanswered
    else if a.status = 401 then .error .unauthorized
    else if a.status = 204 then .ok { chunks := [] }
    else if 200 ≤ a.status ∧ a.status < 300 then
      let broken := ProviderError.transport
        ("error decoding response body for url (" ++ r.url.text ++ ")")
      .ok { chunks := a.chunks, error := if a.cut then some broken else none }
    else .error (.http a.status)

/-- The error of a document that cannot be read. -/
def parseError : Json.Cause → ProviderError
  | .malformed => .parse "malformed document"
  | .truncated => .parse "unexpected end of document"
  | .mismatch => .parse "unexpected content"

/-- The document that an answer holds. -/
def readDocument {α : Type} (decoder : Json.Decoder α) (r : Request) (a : Option Answer) :
    Except ProviderError α := do
  let body ← Answer.body r a
  match body.error with
  | some e => .error e
  | none =>
    match Json.decodeBytes decoder body.chunks.flatten with
    | .ok x => .ok x
    | .error c => .error (parseError c)

/-- The events of a stream: each stream is read by a decoder of its own, piece by piece. -/
def Body.frames (b : Body) : List Frame := (FrameDecoder.feedAll {} b.chunks).2

/-- The events of the stream that an answer holds, and the error behind them. -/
def readStream (r : Request) (a : Option Answer) :
    Except ProviderError (List Frame × Option ProviderError) := do
  let body ← Answer.body r a
  return (body.frames, body.error)

end SnapshotViewer
