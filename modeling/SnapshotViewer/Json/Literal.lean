import SnapshotViewer.Json.Doc
import SnapshotViewer.Number.Int64
import SnapshotViewer.Number.Notation

/-!
# Number literals

The scanning of a number literal and the number it stands for.

A literal without point and exponent is an integer if 64 bits hold it, with or without a sign,
except that `-0` is a double.  Every other literal is a double.  Its leading digits are taken as
long as 64 bits hold them and are scaled by a power of ten: digits in front of the point that no
longer fit count as zeros, and those behind it are dropped.
-/

namespace SnapshotViewer.Json

/-- A number of a document. -/
inductive Number where
  | int (n : Int)
  | float (x : Binary64)
deriving DecidableEq, Repr

namespace Literal

/-- Takes digits into `units` as long as the result fits 64 bits; returns it with the digits
that were not taken. -/
def absorb (units : Nat) : List Char → Nat × List Char
  | [] => (units, [])
  | c :: rest =>
    let next := units * 10 + (c.toNat - '0'.toNat)
    if next ≤ uint64Max then absorb next rest else (units, c :: rest)

/-- The number in a list of digits. -/
def digitsValue (cs : List Char) : Nat :=
  cs.foldl (fun n c => n * 10 + (c.toNat - '0'.toNat)) 0

/-- The written exponent. -/
def exponentValue (l : Literal) : Int :=
  match l.exponent with
  | none => 0
  | some (negative, digits) => if negative then -(digitsValue digits) else digitsValue digits

/-- The double that a literal stands for. -/
def floatValue? (l : Literal) : Option Binary64 :=
  let (units, left) := absorb 0 l.whole
  let (units', left') := absorb units l.fraction
  let places : Int := left.length - (l.fraction.length - left'.length : Nat)
  Binary64.scaled l.negative units' (places + l.exponentValue)

/-- The number that a literal stands for; `none` when it is beyond the greatest double. -/
def value? (l : Literal) : Option Number :=
  let n : Int := digitsValue l.whole
  let isInteger := !l.hasFraction && l.exponent.isNone
  if isInteger ∧ l.negative = false ∧ n ≤ uint64Max then some (.int n)
  else if isInteger ∧ l.negative ∧ 0 < n ∧ n ≤ 0x8000000000000000 then some (.int (-n))
  else l.floatValue?.map .float

/-- The number that a literal stands for. -/
def read (l : Literal) : Except Cause Number :=
  match l.value? with
  | some n => .ok n
  | none => .error .malformed

end Literal

/-- Whether a byte is the ASCII character `c`. -/
def isByte (c : Char) (b : UInt8) : Bool := b.toNat == c.toNat

/-- Whether a byte is a decimal digit. -/
def isDigitByte (b : UInt8) : Bool := '0'.toNat ≤ b.toNat && b.toNat ≤ '9'.toNat

/-- Splits off the digits that a text starts with. -/
def spanDigits (s : List UInt8) : List Char × List UInt8 :=
  ((s.takeWhile isDigitByte).map fun b => Char.ofNat b.toNat, s.dropWhile isDigitByte)

/-- One or more digits; what stands there instead is a fault. -/
def scanDigits (s : List UInt8) : Except Fault (List Char × List UInt8) :=
  match spanDigits s with
  | ([], []) => .error .cutLiteral
  | ([], _ :: _) => .error .malformed
  | found => .ok found

/-- The digits in front of the point: a leading zero stands alone. -/
def scanWhole (s : List UInt8) : Except Fault (List Char × List UInt8) := do
  let (digits, rest) ← scanDigits s
  match digits with
  | '0' :: _ :: _ => .error .malformed
  | _ => return (digits, rest)

/-- The point and the digits behind it, if there is a point. -/
def scanFraction : List UInt8 → Except Fault (Option (List Char) × List UInt8)
  | [] => return (none, [])
  | b :: rest =>
    if isByte '.' b then do
      let (digits, rest) ← scanDigits rest
      return (some digits, rest)
    else return (none, b :: rest)

/-- The exponent, if there is one. -/
def scanExponent : List UInt8 → Except Fault (Option (Bool × List Char) × List UInt8)
  | [] => return (none, [])
  | b :: rest =>
    if isByte 'e' b || isByte 'E' b then do
      let (negative, rest) := match rest with
        | s :: more =>
          if isByte '-' s then (true, more) else if isByte '+' s then (false, more)
          else (false, rest)
        | [] => (false, [])
      let (digits, rest) ← scanDigits rest
      return (some (negative, digits), rest)
    else return (none, b :: rest)

/-- A number literal, from behind its sign. -/
def scanLiteral (negative : Bool) (s : List UInt8) : Except Fault (Literal × List UInt8) := do
  let (whole, rest) ← scanWhole s
  let (fraction, rest) ← scanFraction rest
  let (exponent, rest) ← scanExponent rest
  return ({ negative, whole, fraction := fraction.getD [], hasFraction := fraction.isSome,
            exponent }, rest)

end SnapshotViewer.Json
