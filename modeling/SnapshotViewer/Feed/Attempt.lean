import SnapshotViewer.Feed.Live
import SnapshotViewer.Http.Answer

/-!
# Attempts of a live feed

An attempt to open a stream is refused, or it leads to bytes that come in pieces and have an end.
The feed is told how the attempt came out and then, one by one, what the stream brings; for each
thing that it takes its turn comes before the next.  A feed that rests after an error is told when
the rest is over, and it makes the next attempt then.

## Main definitions

* `Attempt` — how an attempt comes out.
* `Attempt.signals`, `Attempt.script` — what the feed is told about one attempt, or many.
-/

namespace SnapshotViewer

/-- How an attempt to open a stream comes out. -/
abbrev Attempt := Except ProviderError Body

namespace Attempt

/-- What the feed is told about the events of a stream, and the turns that are due to them. -/
def framed (frames : List Frame) : List Signal := frames.flatMap fun x => [.frame x, .turn]

/-- What the feed is told about an attempt. -/
def signals : Attempt → List Signal
  | .error e => [.connected (.error e), .turn]
  | .ok b => .connected (.ok ()) :: (framed b.frames ++ [.closed b.error, .turn])

/-- What the feed is told about one attempt after the other, with the rests behind them. -/
def script (attempts : List Attempt) : List Signal :=
  attempts.flatMap fun a => signals a ++ [.due]

end Attempt

end SnapshotViewer
