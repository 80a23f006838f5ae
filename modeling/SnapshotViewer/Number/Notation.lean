import SnapshotViewer.Number.Shortest

/-!
# Written numbers

Two ways of writing a double's shortest decimal.

## Main definitions

* `Binary64.plain` — positional, never with an exponent: `0.0000001`, `1`, `-0`.
* `Binary64.document` — at least one decimal, and an exponent outside `1e-5 .. 1e16`.
-/

namespace SnapshotViewer

/-- Digits with a decimal point before, inside or behind them, zeros filling the gap. -/
def Decimal.positional (d : Decimal) : List Char :=
  let digits := d.digits
  let zeros (n : Int) : List Char := List.replicate n.toNat '0'
  if 0 ≤ d.exponent then digits ++ zeros d.exponent
  else if 0 < d.point then digits.take d.point.toNat ++ '.' :: digits.drop d.point.toNat
  else '0' :: '.' :: zeros (-d.point) ++ digits

namespace Binary64

/-- The sign in front of a number. -/
def signed (x : Binary64) (text : List Char) : String :=
  String.ofList (if x.negative then '-' :: text else text)

/-- The shortest digits in positional notation. -/
def plain (x : Binary64) : String := x.signed x.shortest.positional

/-- The exponent part of a number, with its sign always written. -/
def exponentPart (e : Int) : List Char :=
  'e' :: (if e < 0 then '-' else '+') :: Nat.toDigits 10 e.natAbs

/-- The shortest digits as a document holds them: `1.0`, `1e-7`, `1.5e+300`. -/
def document (x : Binary64) : String :=
  let d := x.shortest
  x.signed <|
    if -5 < d.point ∧ d.point ≤ 16 then
      if 0 ≤ d.exponent then d.positional ++ ['.', '0'] else d.positional
    else
      match d.digits with
      | [] => []
      | [c] => c :: exponentPart (d.point - 1)
      | c :: rest => c :: '.' :: rest ++ exponentPart (d.point - 1)

end Binary64

end SnapshotViewer
