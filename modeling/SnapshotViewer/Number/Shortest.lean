import SnapshotViewer.Number.Binary64

/-!
# The fewest digits that read back

Every positive double is the nearest double to a whole interval of real numbers.  Its shortest
decimal is the one with the fewest digits in that interval and, of those, the nearest to the
double itself.

## Main definitions

* `Decimal` — a coefficient and a power of ten.
* `Binary64.shortest` — the shortest decimal of a double's magnitude.
-/

namespace SnapshotViewer

/-- The number `coefficient · 10^exponent`. -/
structure Decimal where
  coefficient : Nat
  exponent : Int
deriving DecidableEq, Repr

namespace Decimal

/-- The digits of the coefficient, the most significant first. -/
def digits (d : Decimal) : List Char := Nat.toDigits 10 d.coefficient

/-- The position of the decimal point, counted from in front of the first digit. -/
def point (d : Decimal) : Int := d.digits.length + d.exponent

/-- Moves trailing zeros of the coefficient into the exponent. -/
def trimmed (d : Decimal) : Decimal :=
  if h : d.coefficient ≠ 0 ∧ d.coefficient % 10 = 0 then
    trimmed ⟨d.coefficient / 10, d.exponent + 1⟩
  else d
termination_by d.coefficient
decreasing_by
  omega

end Decimal

namespace Binary64

/-- The number of decimal digits of a natural number. -/
def digitCount (n : Nat) : Nat := (Nat.toDigits 10 n).length

/-- The exponent of the least power of ten that is greater than `num / den`. -/
def ceilLog10 (num den : Nat) : Int :=
  if den ≤ num then digitCount (num / den)
  else 1 - (digitCount ((den - 1) / num) : Int)

/-- `num / den` scaled by `10^shift`, as a new quotient. -/
def shiftedTen (num den : Nat) : Int → Nat × Nat
  | .ofNat k => (num * Nat.pow 10 k, den)
  | .negSucc k => (num, den * Nat.pow 10 (k + 1))

/-- The interval of numbers that round to a double, in quarters of the double's last place,
with the double itself between its ends. -/
structure Neighbourhood where
  low : Nat
  value : Nat
  high : Nat
  /-- The ends round to the double as well. -/
  closed : Bool

/-- The neighbourhood of a magnitude: half a place to each side, but a quarter below a power
of two, where the places change. -/
def neighbourhood (x : Binary64) : Neighbourhood where
  low := if x.significand = 0x10000000000000 ∧ -1074 < x.exponent then 4 * x.significand - 1
    else 4 * x.significand - 2
  value := 4 * x.significand
  high := 4 * x.significand + 2
  closed := x.significand % 2 = 0

/-- Of the two grid points around the value, the nearer one that lies in the interval.  The
grid has step `unit / den` in quarters of a place. -/
def Neighbourhood.nearest? (n : Neighbourhood) (unit den : Nat) : Option Nat :=
  let below := n.value * den / unit
  let fits (c : Nat) : Bool :=
    if n.closed then n.low * den ≤ c * unit ∧ c * unit ≤ n.high * den
    else n.low * den < c * unit ∧ c * unit < n.high * den
  let offBelow := n.value * den - below * unit
  let offAbove := (below + 1) * unit - n.value * den
  if fits below && (offBelow ≤ offAbove || !fits (below + 1)) then some below
  else if fits (below + 1) then some (below + 1)
  else none

/-- Tries the grids of ever more digits, `count` of them, from the one whose step is
`10^exponent`. -/
def shortestFrom (n : Neighbourhood) (place : Int) : Nat → Int → Decimal
  | 0, exponent => ⟨0, exponent⟩
  | count + 1, exponent =>
    -- the step of the grid, `10^exponent`, in quarters of a last place, `2^(place - 2)`
    let ten := shiftedTen 1 1 exponent
    let step := shifted ten.1 ten.2 (2 - place)
    match n.nearest? step.1 step.2 with
    | some c => ⟨c, exponent⟩
    | none => shortestFrom n place count (exponent - 1)

/-- The shortest decimal of the magnitude; seventeen digits always suffice. -/
def shortest (x : Binary64) : Decimal :=
  if x.isZero then ⟨0, 0⟩
  else
    let v := shifted x.significand 1 x.exponent
    (shortestFrom x.neighbourhood x.exponent 17 (ceilLog10 v.1 v.2 - 1)).trimmed

end Binary64

end SnapshotViewer
