import SnapshotViewer.Text.Utf8

/-!
# Form encoding

Lists of names and values written as `name=value&name=value`.  Letters, digits and `*-._` stand
for themselves, a blank is written `+`, and every other byte of the UTF-8 form is written as `%`
and two hexadecimal digits.

Reading takes every text: a `%` that no two digits follow stands for itself, a part without `=`
is a name without a value, and empty parts are left out.

## Main definitions

* `Form.encodeText`, `Form.decodeText` — one name or value.
* `Form.render`, `Form.parse` — a list of pairs.
-/

namespace SnapshotViewer.Form

/-- Whether a byte stands for itself. -/
def isPlain (b : UInt8) : Bool :=
  let c := Char.ofNat b.toNat
  b < 0x80 && (c.isAlphanum || c == '*' || c == '-' || c == '.' || c == '_')

/-- A hexadecimal digit, letters in upper case. -/
def hexChar (n : Nat) : Char := (Nat.digitChar n).toUpper

/-- The written form of a byte. -/
def encodeByte (b : UInt8) : List Char :=
  if isPlain b then [Char.ofNat b.toNat]
  else if b = 0x20 then ['+']
  else ['%', hexChar (b.toNat / 16), hexChar (b.toNat % 16)]

/-- The written form of a name or value. -/
def encodeText (s : String) : List Char := (Text.encode s).flatMap encodeByte

/-- The written form of a list of pairs. -/
def render (pairs : List (String × String)) : String :=
  String.ofList <|
    List.intercalate ['&'] <| pairs.map fun p => encodeText p.1 ++ '=' :: encodeText p.2

/-- The value of a hexadecimal digit in either case. -/
def hexValue? (b : UInt8) : Option Nat :=
  let n := b.toNat
  if 0x30 ≤ n ∧ n ≤ 0x39 then some (n - 0x30)
  else if 0x41 ≤ n ∧ n ≤ 0x46 then some (n - 0x41 + 10)
  else if 0x61 ≤ n ∧ n ≤ 0x66 then some (n - 0x61 + 10)
  else none

/-- The byte that the two characters behind a `%` write. -/
def escaped? (h l : UInt8) : Option UInt8 := do
  return UInt8.ofNat ((← hexValue? h) * 16 + (← hexValue? l))

/-- The bytes that a written name or value stands for. -/
def decodeBytes : List UInt8 → List UInt8
  | [] => []
  | b :: rest =>
    if b = 0x2B then 0x20 :: decodeBytes rest
    else if b = 0x25 then
      match rest with
      | h :: l :: more =>
        match escaped? h l with
        | some c => c :: decodeBytes more
        | none => b :: decodeBytes (h :: l :: more)
      | more => b :: decodeBytes more
    else b :: decodeBytes rest

/-- The text that a written name or value stands for. -/
def decodeText (bs : List UInt8) : String := Text.decode (decodeBytes bs)

/-- The parts of a text between separators, the empty ones included. -/
def parts (separator : UInt8) : List UInt8 → List (List UInt8)
  | [] => [[]]
  | b :: rest =>
    if b = separator then [] :: parts separator rest
    else
      match parts separator rest with
      | [] => [[b]]
      | p :: ps => (b :: p) :: ps

/-- Splits a part at its first `=`. -/
def splitPair (bs : List UInt8) : List UInt8 × List UInt8 :=
  (bs.takeWhile (· != 0x3D), (bs.dropWhile (· != 0x3D)).drop 1)

/-- The name and value that a part stands for. -/
def parsePart (bs : List UInt8) : String × String :=
  let p := splitPair bs
  (decodeText p.1, decodeText p.2)

/-- The pairs that a text holds. -/
def parse (s : String) : List (String × String) :=
  (((parts 0x26 (Text.encode s)).filter (!·.isEmpty)).map parsePart)

end SnapshotViewer.Form
