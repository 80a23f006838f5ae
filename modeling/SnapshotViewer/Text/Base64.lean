/-!
# Base 64

Bytes written with 64 characters: three bytes are four digits of six bits each.  What is missing
at the end is filled up with `=`.
-/

namespace SnapshotViewer.Text

/-- The character of a digit. -/
def base64Char (n : Nat) : Char :=
  if n < 26 then Char.ofNat ('A'.toNat + n)
  else if n < 52 then Char.ofNat ('a'.toNat + (n - 26))
  else if n < 62 then Char.ofNat ('0'.toNat + (n - 52))
  else if n = 62 then '+' else '/'

/-- The four digits of a number of 24 bits. -/
def base64Digits (n : Nat) : List Char :=
  [base64Char (n / 0x40000 % 64), base64Char (n / 0x1000 % 64), base64Char (n / 64 % 64),
   base64Char (n % 64)]

/-- The written form of some bytes. -/
def base64 : List UInt8 → List Char
  | [] => []
  | [a] => (base64Digits (a.toNat * 0x10000)).take 2 ++ ['=', '=']
  | [a, b] => (base64Digits (a.toNat * 0x10000 + b.toNat * 0x100)).take 3 ++ ['=']
  | a :: b :: c :: rest =>
    base64Digits (a.toNat * 0x10000 + b.toNat * 0x100 + c.toNat) ++ base64 rest

end SnapshotViewer.Text
