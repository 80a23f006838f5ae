import SnapshotViewer.Json.Value
import SnapshotViewer.Json.Scan

/-!
# Reading documents of a given kind

A `Decoder` reads one kind of value from a tree, from front to back, and stops at the first
problem.  Records are described by their fields: a record may be written with names, in any
order, or as a list of its fields in their order, of which those at the end that are not
required may be missing.

## Main definitions

* `Decoder.record` — records from a list of `Member`s.
* `decodeBytes` — a whole text.
* `decodeDoc` — a value that is already there, in which of several members with one name the
  last counts and any problem is a mismatch.
-/

namespace SnapshotViewer.Json

/-- Reads a value of one kind, nested at most `depth` levels deep. -/
def Decoder (α : Type) := (depth : Nat) → Doc → Except Cause α

/-- What is reported for a value of another kind than the one asked for: a text or number is
read to its end first. -/
def mismatch {α : Type} : Doc → Except Cause α
  | .number l => do let _ ← l.read; .error .mismatch
  | .string q => do let _ ← q.read; .error .mismatch
  | .broken f => .error f.reading
  | _ => .error .mismatch

namespace Decoder
variable {α β : Type}

/-- Applies a function to what was read. -/
def map (f : α → β) (d : Decoder α) : Decoder β := fun depth doc => f <$> d depth doc

/-- A value of any kind. -/
def value : Decoder Value := fun depth doc => doc.value depth

/-- An integer within bounds. -/
def int (low high : Int) : Decoder Int := fun _ doc =>
  match doc with
  | .number l => do
    match ← l.read with
    | .int n => if low ≤ n ∧ n ≤ high then return n else .error .mismatch
    | .float _ => .error .mismatch
  | doc => mismatch doc

/-- A text. -/
def text : Decoder String := fun _ doc =>
  match doc with
  | .string q => q.read
  | doc => mismatch doc

/-- A truth value. -/
def bool : Decoder Bool := fun _ doc =>
  match doc with
  | .bool b => .ok b
  | doc => mismatch doc

/-- A value or null. -/
def optional (d : Decoder α) : Decoder (Option α) := fun depth doc =>
  match doc with
  | .null => .ok none
  | doc => some <$> d depth doc

/-- A list. -/
def list (d : Decoder α) : Decoder (List α) := fun depth doc =>
  match doc with
  | .array items fault =>
    match depth with
    | 0 => .error .malformed
    | depth + 1 => do
      let xs ← items.mapM (d depth)
      ended fault
      return xs
  | doc => mismatch doc

/-- The members of a record of values of one kind, put to those found before. -/
def keyedMembers (d : Decoder α) (depth : Nat) :
    List (Quoted × Doc) → List (String × α) → Except Cause (List (String × α))
  | [], found => .ok found
  | (q, doc) :: rest, found => do
    let name ← q.read
    let x ← d depth doc
    keyedMembers d depth rest (Keyed.insert name x found)

/-- A record of values of one kind under any names. -/
def keyed (d : Decoder α) : Decoder (List (String × α)) := fun depth doc =>
  match doc with
  | .object members fault =>
    match depth with
    | 0 => .error .malformed
    | depth + 1 => do
      let xs ← keyedMembers d depth members []
      ended fault
      return xs
  | doc => mismatch doc

/-- A word out of a list, written as a text or as the name of a record's only member, whose
value is null. -/
def tag (words : List (String × α)) : Decoder α := fun depth doc =>
  let find (q : Quoted) : Except Cause α := do
    match words.lookup (← q.read) with
    | some x => return x
    | none => .error .mismatch
  match doc with
  | .string q => find q
  | .object members fault =>
    match depth with
    | 0 => .error .malformed
    | _ + 1 =>
      match members with
      | [] =>
        match fault with
        | some f => .error f.closing
        | none => .error .malformed
      | (q, content) :: more => do
        let x ← find q
        match content with
        | .null => pure ()
        | content => mismatch content
        if more.isEmpty then
          ended fault Fault.closing
          return x
        else .error .malformed
  | .broken f => .error f.reading
  | _ => .error .malformed

end Decoder

/-- A field of records that are collected in a `σ`. -/
structure Member (σ : Type) where
  name : String
  required : Bool
  /-- Reads the field's value and puts it into the record. -/
  read : Decoder (σ → σ)

namespace Member
variable {σ α : Type}

/-- A field that must be there. -/
def mandatory (name : String) (d : Decoder α) (put : α → σ → σ) : Member σ :=
  ⟨name, true, d.map put⟩

/-- A field that keeps the record's initial value when it is not there. -/
def defaulted (name : String) (d : Decoder α) (put : α → σ → σ) : Member σ :=
  ⟨name, false, d.map put⟩

end Member

namespace Decoder
variable {σ : Type}

/-- Reads the members of a record: a field may be given once, other members are passed over,
and at the end no required field may be missing. -/
def members (fields : List (Member σ)) (depth : Nat) (fault : Option Fault) :
    List (Quoted × Doc) → List String → σ → Except Cause σ
  | [], seen, r => do
    ended fault
    if fields.all fun f => !f.required || seen.contains f.name then return r
    else .error .mismatch
  | (q, doc) :: rest, seen, r => do
    let name ← q.read
    match fields.find? (·.name == name) with
    | none => do
      doc.skim
      members fields depth fault rest seen r
    | some f =>
      if seen.contains name then .error .mismatch
      else do
        let put ← f.read depth doc
        members fields depth fault rest (name :: seen) (put r)

/-- Reads the fields of a record that is written as a list. -/
def items (depth : Nat) (fault : Option Fault) :
    List (Member σ) → List Doc → σ → Except Cause σ
  | [], [], r => do
    ended fault Fault.closing
    return r
  | [], _ :: _, _ => .error .malformed
  | f :: fields, [], r => do
    ended fault
    if (f :: fields).all fun f => !f.required then return r else .error .mismatch
  | f :: fields, doc :: rest, r => do
    let put ← f.read depth doc
    items depth fault fields rest (put r)

/-- A record with the given fields, starting from `start`. -/
def record (fields : List (Member σ)) (start : σ) : Decoder σ := fun depth doc =>
  match doc with
  | .object ms fault =>
    match depth with
    | 0 => .error .malformed
    | depth + 1 => members fields depth fault ms [] start
  | .array docs fault =>
    match depth with
    | 0 => .error .malformed
    | depth + 1 => items depth fault fields docs start
  | doc => mismatch doc

end Decoder

/-- Reads a whole text; behind the value there may only be blanks. -/
def decodeBytes {α : Type} (d : Decoder α) (s : List UInt8) : Except Cause α :=
  let text := scanBytes s
  do
    let x ← d maxDepth text.doc
    if text.trailing then .error .malformed else return x

/-- Reads a whole text. -/
def decodeText {α : Type} (d : Decoder α) (s : String) : Except Cause α :=
  decodeBytes d (Text.encode s)

/-- Whether a member has the same name as another one. -/
def sameName (p q : Quoted × Doc) : Bool :=
  match p.1.read, q.1.read with
  | .ok m, .ok n => m == n
  | _, _ => false

mutual

/-- The tree without the members that a later one of the same name replaces. -/
def Doc.settled : Doc → Doc
  | .array items fault => .array (settledItems items) fault
  | .object ms fault => .object (settledMembers ms) fault
  | d => d

/-- The items without replaced members. -/
def settledItems : List Doc → List Doc
  | [] => []
  | d :: rest => d.settled :: settledItems rest

/-- The members without replaced ones. -/
def settledMembers : List (Quoted × Doc) → List (Quoted × Doc)
  | [] => []
  | (q, d) :: rest =>
    let kept := settledMembers rest
    if kept.any (sameName (q, d)) then kept else (q, d.settled) :: kept

end

/-- Reads a value that is already there. -/
def decodeDoc {α : Type} (d : Decoder α) (doc : Doc) : Except Cause α :=
  (d maxDepth doc.settled).mapError fun _ => .mismatch

end SnapshotViewer.Json
