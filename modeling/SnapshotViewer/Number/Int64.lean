/-!
# Integers of 64 bits

The bounds of 64-bit integers, what becomes of numbers beyond them, and the reading of those with
a sign from text.  Arithmetic that leads beyond the bounds is no number at all: the program breaks
off there.

## Main definitions

* `fitsInt64` — whether 64 bits hold a number.
* `Crash`, `checkInt64` — why a program breaks off, and a sum that may be the reason.
* `saturateUInt64` — the nearest number that 64 bits hold without a sign.
* `readInt64` — an optional sign and decimal digits.
-/

namespace SnapshotViewer

/-- The number that a list of decimal digits writes; `none` when some character is no digit. -/
def readDigits? (cs : List Char) : Option Nat :=
  cs.foldlM (fun n c => if c.isDigit then some (10 * n + (c.toNat - '0'.toNat)) else none) 0

/-- What keeps a text from being a 64-bit integer. -/
inductive IntegerFault where
  | empty
  | invalidDigit
  | tooLarge
  | tooSmall
deriving DecidableEq, Repr

/-- The least number of 64 bits with a sign. -/
def int64Min : Int := -0x8000000000000000
/-- The greatest number of 64 bits with a sign. -/
def int64Max : Int := 0x7FFFFFFFFFFFFFFF

/-- The greatest number of 64 bits without a sign. -/
def uint64Max : Nat := 0xFFFFFFFFFFFFFFFF

/-- Whether a number fits 64 bits with a sign. -/
def fitsInt64 (n : Int) : Bool := int64Min ≤ n && n ≤ int64Max

/-- Why a program breaks off. -/
inductive Crash where
  /-- The result of some arithmetic has no room. -/
  | overflow
deriving DecidableEq, Repr

/-- The result of some arithmetic of 64 bits with a sign. -/
def checkInt64 (n : Int) : Except Crash Int := if fitsInt64 n then .ok n else .error .overflow

/-- The number of 64 bits without a sign that is nearest. -/
def saturateUInt64 (n : Int) : Nat := (max 0 (min n uint64Max)).toNat

/-- Reads decimal digits as a 64-bit integer of the given sign.  `blank` is the fault of there
being no digits. -/
def readMagnitude (blank : IntegerFault) (negative : Bool) (digits : List Char) :
    Except IntegerFault Int :=
  if digits.isEmpty then .error blank
  else match readDigits? digits with
    | none => .error .invalidDigit
    | some n =>
      if negative then
        if int64Min ≤ -(n : Int) then .ok (-(n : Int)) else .error .tooSmall
      else
        if (n : Int) ≤ int64Max then .ok n else .error .tooLarge

/-- Reads an optional sign and one or more decimal digits as a 64-bit integer. -/
def readInt64 : List Char → Except IntegerFault Int
  | '-' :: rest => readMagnitude .invalidDigit true rest
  | '+' :: rest => readMagnitude .invalidDigit false rest
  | digits => readMagnitude .empty false digits

/-- The 64-bit integer that a text writes, if it writes one. -/
def readInt64? (s : String) : Option Int := (readInt64 s.toList).toOption

end SnapshotViewer
