import SnapshotViewer.Text.Utf8

/-!
# Documents as written

A `Doc` is the tree of a document, exactly as far as its text allows one: members keep their
order and repetitions, strings their escapes, numbers their digits, and where the text stops
being a document there stands a fault.  A reader walks the tree from front to back and reports
the first thing that keeps it from going on, be it a fault of the text or a value of the wrong
kind.

## Main definitions

* `Cause` — why a document was refused.
* `Doc` — the tree.
* `Quoted.read` — the text of a string.
* `Doc.skim` — passing over a value that nobody asked for.
-/

namespace SnapshotViewer.Json

/-- Why a document was refused. -/
inductive Cause where
  /-- The text is no document. -/
  | malformed
  /-- The text stops before the document does. -/
  | truncated
  /-- The document is not one of the kind asked for. -/
  | mismatch
deriving DecidableEq, Repr

/-- A place where the text stops being a document, with what each kind of reader calls it. -/
structure Fault where
  /-- The cause for a reader that wants a value, or the next member. -/
  reading : Cause
  /-- The cause for a reader that passes over the value. -/
  skipping : Cause := reading
  /-- The cause for a reader that wants the enclosing list or record to end here, or a tag to
  begin. -/
  closing : Cause := reading
deriving DecidableEq, Repr

namespace Fault

/-- The text goes on in a way it must not. -/
def malformed : Fault := { reading := .malformed }

/-- The text stops. -/
def truncated : Fault := { reading := .truncated }

/-- A number literal stops with the text; passing over it does not tell that from a wrong
character. -/
def cutLiteral : Fault := { reading := .truncated, skipping := .malformed }

/-- The fault seen by a reader that wants a list or record to end where a comma stands. -/
def afterComma (f : Fault) : Fault := { f with closing := .malformed }

end Fault

/-- A part of a string: a byte of text, or a 16-bit unit given by number. -/
inductive Piece where
  | byte (b : UInt8)
  | unit (u : Nat)
deriving DecidableEq, Repr

/-- A string as written; `fault` is set when its closing quote is missing. -/
structure Quoted where
  pieces : List Piece
  fault : Option Fault
deriving DecidableEq, Repr

/-- A number as written: its digits before and after the point and in the exponent. -/
structure Literal where
  negative : Bool
  whole : List Char
  fraction : List Char
  /-- Whether a point or an exponent is written. -/
  hasFraction : Bool
  exponent : Option (Bool × List Char)
deriving DecidableEq, Repr

/-- The tree of a document.  A list or record whose end is missing carries the fault that
stands there. -/
inductive Doc where
  | null
  | bool (b : Bool)
  | number (n : Literal)
  | string (q : Quoted)
  | array (items : List Doc) (fault : Option Fault)
  | object (members : List (Quoted × Doc)) (fault : Option Fault)
  | broken (fault : Fault)
deriving Repr

namespace Quoted

/-- Whether a 16-bit unit is the first of a pair. -/
def isLead (u : Nat) : Bool := 0xD800 ≤ u && u ≤ 0xDBFF

/-- Whether a 16-bit unit is the second of a pair. -/
def isTrail (u : Nat) : Bool := 0xDC00 ≤ u && u ≤ 0xDFFF

/-- The bytes that the pieces stand for.  A unit of a pair must not stand alone; one at the
very end is the fault of the text if that stops there. -/
def bytes (fault : Option Fault) : List Piece → Except Cause (List UInt8)
  | [] =>
    match fault with
    | none => .ok []
    | some f => .error f.reading
  | .byte b :: rest => return b :: (← bytes fault rest)
  | [.unit u] =>
    if isTrail u then .error .malformed
    else
      match fault with
      | some f => .error f.reading
      | none => if isLead u then .error .malformed else .ok (String.utf8EncodeChar (Char.ofNat u))
  | .unit u :: .byte b :: rest =>
    if isTrail u || isLead u then .error .malformed
    else return String.utf8EncodeChar (Char.ofNat u) ++ (← bytes fault (.byte b :: rest))
  | .unit u :: .unit v :: rest =>
    if isTrail u then .error .malformed
    else if isLead u then
      if isTrail v then
        return String.utf8EncodeChar (Char.ofNat (0x10000 + (u - 0xD800) * 0x400 + (v - 0xDC00)))
          ++ (← bytes fault rest)
      else .error .malformed
    else return String.utf8EncodeChar (Char.ofNat u) ++ (← bytes fault (.unit v :: rest))

/-- The text of a string. -/
def read (q : Quoted) : Except Cause String := do
  match Text.decode? (← bytes q.fault q.pieces) with
  | some s => .ok s
  | none => .error .malformed

/-- Passes over a string: its end must be there, what it holds does not matter. -/
def skim (q : Quoted) : Except Cause Unit :=
  match q.fault with
  | none => .ok ()
  | some f => .error f.skipping

end Quoted

/-- The end of a list or record, for a reader that has taken all its members. -/
def ended (fault : Option Fault) (choose : Fault → Cause := Fault.reading) :
    Except Cause Unit :=
  match fault with
  | none => .ok ()
  | some f => .error (choose f)

mutual

/-- Passes over a value that nobody asked for. -/
def Doc.skim : Doc → Except Cause Unit
  | .null | .bool _ | .number _ => .ok ()
  | .string q => q.skim
  | .array items fault => do skimItems items; ended fault Fault.skipping
  | .object members fault => do skimMembers members; ended fault Fault.skipping
  | .broken f => .error f.skipping

/-- Passes over the items of a list. -/
def skimItems : List Doc → Except Cause Unit
  | [] => .ok ()
  | d :: rest => do d.skim; skimItems rest

/-- Passes over the members of a record. -/
def skimMembers : List (Quoted × Doc) → Except Cause Unit
  | [] => .ok ()
  | (q, d) :: rest => do q.skim; d.skim; skimMembers rest

end

end SnapshotViewer.Json
