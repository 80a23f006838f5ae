import SnapshotViewer.Snapshot.Basic

/-!
# Snapshots as documents

The reading of a snapshot: a record of timestamps and of one list of rows for each collection.
A row is a record whose identity field must hold an integer within the collection's bounds; of
its other fields any number may be given, and of those with one name the last is kept.
-/

namespace SnapshotViewer

open Json

namespace Row

/-- The members of a row, put to those found before. -/
def decodeMembers (k : Collection) (depth : Nat) (fault : Option Fault) :
    List (Quoted × Doc) → Option EntityId → Fields → Except Cause Row
  | [], id, fields => do
    ended fault
    match id with
    | some id => return ⟨id, fields⟩
    | none => .error .mismatch
  | (q, doc) :: rest, id, fields => do
    let name ← q.read
    if name = k.idField then
      if id.isSome then .error .mismatch
      else do
        let n ← Decoder.int k.idBounds.1 k.idBounds.2 depth doc
        decodeMembers k depth fault rest (some (EntityId.ofInt n)) fields
    else do
      let v ← Scalar.decoder depth doc
      decodeMembers k depth fault rest id (Keyed.insert name v fields)

/-- Reads a row of a collection. -/
def decoder (k : Collection) : Decoder Row := fun depth doc =>
  match doc with
  | .object members fault =>
    match depth with
    | 0 => .error .malformed
    | depth + 1 => decodeMembers k depth fault members none []
  | doc => mismatch doc

end Row

namespace Snapshot

/-- A signed 64-bit number. -/
def int64 : Decoder Int := Decoder.int int64Min int64Max

/-- The rows of a collection as a field. -/
def tableField (k : Collection) : Member Snapshot :=
  .defaulted k.name (Decoder.list (Row.decoder k)) fun rows s =>
    { s with tables := s.tables.put rows k }

/-- The fields of a snapshot in their order. -/
def documentFields : List (Member Snapshot) :=
  [.mandatory "timestamp" int64 fun t s => { s with timestamp := t },
   .defaulted "prev_timestamp" (Decoder.optional int64) fun t s => { s with prev := t },
   .defaulted "next_timestamp" (Decoder.optional int64) fun t s => { s with next := t }]
  ++ Collection.all.map tableField

/-- Reads a snapshot. -/
def decoder : Decoder Snapshot := Decoder.record documentFields { timestamp := 0 }

/-- Reads a snapshot from a text. -/
def ofText (s : String) : Except Cause Snapshot := decodeText decoder s

/-- Reads a snapshot from a value that is already there. -/
def ofDoc (doc : Doc) : Except Cause Snapshot := decodeDoc decoder doc

end Snapshot

end SnapshotViewer
