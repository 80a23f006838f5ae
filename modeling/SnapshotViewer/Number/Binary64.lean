/-!
# Finite double-precision numbers

A finite double is held exactly, as a sign, a significand of at most 53 bits and a power of
two.  All arithmetic is on natural numbers, so every value computes in the kernel as it does
in a compiled program.

## Main definitions

* `Binary64.ofQuotient` — the double nearest to a quotient, a tie going to the even
  significand.
* `Binary64.product`, `Binary64.quotient` — product and quotient, each rounded once.
* `Binary64.scaled` — a count of units of a power of ten, the value of a number literal.
-/

namespace SnapshotViewer

/-- The finite double `(-1)^negative · significand · 2^exponent`.  The significand has exactly
53 bits unless the exponent is the least one, `-1074`. -/
structure Binary64 where
  negative : Bool
  significand : Nat
  exponent : Int
deriving DecidableEq, Repr

namespace Binary64

/-- The zero of the given sign. -/
def zero (negative : Bool) : Binary64 := ⟨negative, 0, -1074⟩

/-- Whether the number is one of the two zeros. -/
def isZero (x : Binary64) : Bool := x.significand == 0

/-- The number with its sign set. -/
def withSign (x : Binary64) (negative : Bool) : Binary64 := { x with negative }

/-- Equality of the numbers meant: the two zeros are equal. -/
def numEq (x y : Binary64) : Bool := x == y || (x.isZero && y.isZero)

@[simp] theorem numEq_self (x : Binary64) : x.numEq x = true := by simp [numEq]

theorem numEq_comm (x y : Binary64) : x.numEq y = y.numEq x := by
  unfold numEq
  rw [Bool.and_comm x.isZero, Bool.beq_comm]

/-- The integer nearest to `num / den`, a tie going to the even one. -/
def roundQuotient (num den : Nat) : Nat :=
  let q := num / den
  let r := num % den
  if den < 2 * r ∨ (2 * r = den ∧ q % 2 = 1) then q + 1 else q

/-- `num / den` scaled by `2^shift`, as a new quotient. -/
def shifted (num den : Nat) : Int → Nat × Nat
  | .ofNat k => (num * Nat.pow 2 k, den)
  | .negSucc k => (num, den * Nat.pow 2 (k + 1))

/-- The exponent of the greatest power of two that is at most `num / den`. -/
def floorLog2 (num den : Nat) : Int :=
  let guess : Int := (Nat.log2 num : Int) - Nat.log2 den
  let scaledDown := shifted num den (-guess)
  if scaledDown.2 ≤ scaledDown.1 then guess else guess - 1

/-- The double nearest to `num / den`, a tie going to the even significand; `none` when it
would exceed the greatest finite double. -/
def ofQuotient (negative : Bool) (num den : Nat) : Option Binary64 :=
  if num = 0 then some (zero negative)
  else
    let exponent := max (-1074) (floorLog2 num den - 52)
    let q := shifted num den (-exponent)
    let m := roundQuotient q.1 q.2
    let x : Binary64 :=
      if m = 0x20000000000000 then ⟨negative, 0x10000000000000, exponent + 1⟩
      else ⟨negative, m, exponent⟩
    if x.exponent ≤ 971 then some x else none

/-- The double nearest to a natural number. -/
def ofNat (n : Nat) : Option Binary64 := ofQuotient false n 1

/-- The product, rounded once; the sign is that of the left factor. -/
def product (x y : Binary64) : Option Binary64 :=
  let q := shifted (x.significand * y.significand) 1 (x.exponent + y.exponent)
  ofQuotient x.negative q.1 q.2

/-- The quotient by a number that is not zero, rounded once; the sign is that of the
dividend. -/
def quotient (x y : Binary64) : Option Binary64 :=
  let q := shifted x.significand y.significand (x.exponent - y.exponent)
  ofQuotient x.negative q.1 q.2

/-- The double nearest to `10 ^ k`. -/
def powerOfTen (k : Nat) : Option Binary64 := ofNat (Nat.pow 10 k)

/-- `x / 10 ^ k`: at most 308 decimal places are taken off in a step, and nothing is taken off
zero. -/
def scaledDown (x : Binary64) (k : Nat) : Option Binary64 :=
  if k ≤ 308 then do x.quotient (← powerOfTen k)
  else if x.isZero then some x
  else do scaledDown (← x.quotient (← powerOfTen 308)) (k - 308)
termination_by k

/-- The value of `units · 10^exponent`: the units are rounded to a double first and then
scaled, each step rounding once.  `none` when the number is beyond the greatest finite
double. -/
def scaled (negative : Bool) (units : Nat) (exponent : Int) : Option Binary64 := do
  let x ← ofNat units
  let y ← match exponent with
    | .ofNat k =>
      if k ≤ 308 then x.product (← powerOfTen k)
      else if x.isZero then some x
      else none
    | .negSucc k => x.scaledDown (k + 1)
  return y.withSign negative

end Binary64

end SnapshotViewer
