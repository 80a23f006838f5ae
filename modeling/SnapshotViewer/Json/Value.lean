import SnapshotViewer.Json.Doc
import SnapshotViewer.Json.Literal
import SnapshotViewer.Keyed

/-!
# Document values

The value of a document, which no longer knows how it was written: the members of a record are
in order of their names, and of members with one name the last is kept.

## Main definitions

* `Doc.value` — the value of a tree, at most so many levels deep.
* `Value.compact` — its shortest text.
-/

namespace SnapshotViewer.Json

/-- The value of a document. -/
inductive Value where
  | null
  | bool (b : Bool)
  | int (n : Int)
  | float (x : Binary64)
  | text (s : String)
  | array (items : List Value)
  | object (members : List (String × Value))
deriving Repr

/-- Lists and records may be nested this deep. -/
def maxDepth : Nat := 127

/-- The value of a number. -/
def Number.toValue : Number → Value
  | .int n => .int n
  | .float x => .float x

mutual

/-- The value of a tree with at most `depth` levels of lists and records. -/
def Doc.value (depth : Nat) : Doc → Except Cause Value
  | .null => .ok .null
  | .bool b => .ok (.bool b)
  | .number l => return (← l.read).toValue
  | .string q => return .text (← q.read)
  | .array items fault =>
    match depth with
    | 0 => .error .malformed
    | depth + 1 => do
      let vs ← itemValues depth items
      ended fault
      return .array vs
  | .object members fault =>
    match depth with
    | 0 => .error .malformed
    | depth + 1 => do
      let vs ← memberValues depth members []
      ended fault
      return .object vs
  | .broken f => .error f.reading

/-- The values of the items of a list. -/
def itemValues (depth : Nat) : List Doc → Except Cause (List Value)
  | [] => .ok []
  | d :: rest => do
    let v ← d.value depth
    return v :: (← itemValues depth rest)

/-- The values of the members of a record, put to those found before. -/
def memberValues (depth : Nat) :
    List (Quoted × Doc) → List (String × Value) → Except Cause (List (String × Value))
  | [], found => .ok found
  | (q, d) :: rest, found => do
    let name ← q.read
    let v ← d.value depth
    memberValues depth rest (Keyed.insert name v found)

end

/-- A character inside the quotes of a string. -/
def escapeChar (c : Char) : List Char :=
  if c = '"' then ['\\', '"']
  else if c = '\\' then ['\\', '\\']
  else if c = '\n' then ['\\', 'n']
  else if c = '\r' then ['\\', 'r']
  else if c = '\t' then ['\\', 't']
  else if c.toNat = 0x08 then ['\\', 'b']
  else if c.toNat = 0x0C then ['\\', 'f']
  else if c.toNat < 0x20 then
    ['\\', 'u', '0', '0', Nat.digitChar (c.toNat / 16), Nat.digitChar (c.toNat % 16)]
  else [c]

/-- A text in quotes. -/
def quote (s : String) : String :=
  String.ofList ('"' :: s.toList.flatMap escapeChar ++ ['"'])

mutual

/-- The text of a value, without blanks. -/
def Value.compact : Value → String
  | .null => "null"
  | .bool b => if b then "true" else "false"
  | .int n => toString n
  | .float x => x.document
  | .text s => quote s
  | .array items => "[" ++ String.intercalate "," (compactItems items) ++ "]"
  | .object members => "\x7b" ++ String.intercalate "," (compactMembers members) ++ "\x7d"

/-- The texts of the items of a list. -/
def compactItems : List Value → List String
  | [] => []
  | v :: rest => v.compact :: compactItems rest

/-- The texts of the members of a record. -/
def compactMembers : List (String × Value) → List String
  | [] => []
  | (name, v) :: rest => (quote name ++ ":" ++ v.compact) :: compactMembers rest

end

end SnapshotViewer.Json
