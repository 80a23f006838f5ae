import SnapshotViewer.Feed.Basic

/-!
# A scripted archive

A server of recorded snapshots that is kept in memory.  Some of its answers can be made to come
late or to fail, and it remembers what it was asked.
-/

namespace SnapshotViewer

/-- How the next answer comes. -/
structure ScriptedReply where
  /-- How late, in milliseconds. -/
  latency : Nat := 0
  /-- What fails. -/
  error : Option ProviderError := none
deriving DecidableEq, Repr

/-- Recorded snapshots in order of time, with a script for the answers. -/
structure Archive where
  snapshots : List Snapshot := []
  replies : List ScriptedReply := []
  /-- What was asked, in order. -/
  calls : List Query := []
deriving DecidableEq, Repr

namespace Archive

/-- The snapshot that answers a query: the nearest on the side that is asked for, else the
nearest on the other side. -/
def lookup? (a : Archive) (q : Query) : Option Snapshot :=
  match q.timestamp, q.direction with
  | none, _ => a.snapshots.getLast?
  | some t, some .ceil => (a.snapshots.find? (t ≤ ·.timestamp)).or a.snapshots.getLast?
  | some t, _ => (a.snapshots.reverse.find? (·.timestamp ≤ t)).or a.snapshots.head?

/-- The answer to a query; nothing is found in an empty archive. -/
def answer (a : Archive) (q : Query) : Except ProviderError Snapshot :=
  match a.lookup? q with
  | some s => .ok s
  | none => .error (.http 404)

/-- Takes a query: what it leads to, and how late. -/
def fetch (a : Archive) (q : Query) : Archive × Nat × Except ProviderError Snapshot :=
  let reply := a.replies.headD {}
  let answer := match reply.error with
    | some e => .error e
    | none => a.answer q
  ({ a with replies := a.replies.tail, calls := a.calls ++ [q] }, reply.latency, answer)

end Archive

end SnapshotViewer
