import SnapshotViewer.Json.Literal

/-!
# From text to tree

`Doc.scan` turns the bytes of a text into its tree.  It never fails: where the text stops being
a document the tree holds a fault, and nothing behind it is looked at.
-/

namespace SnapshotViewer.Json

/-- Whether a byte may stand between the parts of a document. -/
def isGap (b : UInt8) : Bool := isByte ' ' b || isByte '\n' b || isByte '\t' b || isByte '\r' b

/-- Drops the blanks that a text starts with. -/
def skipGap (s : List UInt8) : List UInt8 := s.dropWhile isGap

/-- The value of a hexadecimal digit. -/
def hexDigit? (b : UInt8) : Option Nat :=
  let n := b.toNat
  if '0'.toNat ≤ n ∧ n ≤ '9'.toNat then some (n - '0'.toNat)
  else if 'a'.toNat ≤ n ∧ n ≤ 'f'.toNat then some (n - 'a'.toNat + 10)
  else if 'A'.toNat ≤ n ∧ n ≤ 'F'.toNat then some (n - 'A'.toNat + 10)
  else none

/-- The 16-bit unit that four hexadecimal digits write. -/
def hexUnit? (a b c d : UInt8) : Option Nat := do
  return ((← hexDigit? a) * 16 + (← hexDigit? b)) * 256
    + ((← hexDigit? c) * 16 + (← hexDigit? d))

/-- The byte that a one-letter escape stands for. -/
def escapedByte? (b : UInt8) : Option UInt8 :=
  if isByte '"' b || isByte '\\' b || isByte '/' b then some b
  else if isByte 'b' b then some 0x08
  else if isByte 'f' b then some 0x0C
  else if isByte 'n' b then some 0x0A
  else if isByte 'r' b then some 0x0D
  else if isByte 't' b then some 0x09
  else none

/-- Puts a piece in front of a string. -/
def Quoted.cons (p : Piece) (q : Quoted) : Quoted := { q with pieces := p :: q.pieces }

/-- A string from behind its opening quote, and the text behind the closing one. -/
def scanString : List UInt8 → Quoted × List UInt8
  | [] => (⟨[], some .truncated⟩, [])
  | b :: rest =>
    if isByte '"' b then (⟨[], none⟩, rest)
    else if isByte '\\' b then
      match rest with
      | [] => (⟨[], some .truncated⟩, [])
      | e :: rest =>
        if isByte 'u' e then
          match rest with
          | h₁ :: h₂ :: h₃ :: h₄ :: rest =>
            match hexUnit? h₁ h₂ h₃ h₄ with
            | some u => let (q, left) := scanString rest; (q.cons (.unit u), left)
            | none => (⟨[], some .malformed⟩, [])
          | _ => (⟨[], some .truncated⟩, [])
        else
          match escapedByte? e with
          | some c => let (q, left) := scanString rest; (q.cons (.byte c), left)
          | none => (⟨[], some .malformed⟩, [])
    else if b < 0x20 then (⟨[], some .malformed⟩, [])
    else let (q, left) := scanString rest; (q.cons (.byte b), left)

/-- Takes the letters of a word off the front of a text. -/
def scanWord : List Char → List UInt8 → Except Fault (List UInt8)
  | [], s => .ok s
  | _ :: _, [] => .error .truncated
  | c :: word, b :: rest => if isByte c b then scanWord word rest else .error .malformed

/-- A scanned part of a text; the text behind it is missing when the part holds a fault. -/
abbrev Scanned (α : Type) := α × Option (List UInt8)

/-- A word of the format: the rest of its letters must follow. -/
def scanConstant (value : Doc) (word : List Char) (rest : List UInt8) : Scanned Doc :=
  match scanWord word rest with
  | .ok left => (value, some left)
  | .error f => (.broken f, none)

/-- A number from behind its sign. -/
def scanNumber (negative : Bool) (s : List UInt8) : Scanned Doc :=
  match scanLiteral negative s with
  | .ok (l, rest) => (.number l, some rest)
  | .error f => (.broken f, none)

/-- A string value from behind its opening quote. -/
def scanText (s : List UInt8) : Scanned Doc :=
  match scanString s with
  | (⟨pieces, none⟩, rest) => (.string ⟨pieces, none⟩, some rest)
  | (q, _) => (.string q, none)

/-- What a reader that wants a tag reports when a record starts with something else than a
string. -/
def tagCause : Doc → Cause
  | .broken f => f.reading
  | .string q => match q.read with
    | .ok _ => .mismatch
    | .error c => c
  | .number l => match l.read with
    | .ok _ => .mismatch
    | .error c => c
  | _ => .mismatch

mutual

/-- The value that a text starts with.  The number bounds the parts scanned; twice the length
of the text suffices. -/
def scanValue : Nat → List UInt8 → Scanned Doc
  | 0, _ => (.broken .truncated, none)
  | fuel + 1, s =>
    match skipGap s with
    | [] => (.broken .truncated, none)
    | b :: rest =>
      if isByte 'n' b then scanConstant .null ['u', 'l', 'l'] rest
      else if isByte 't' b then scanConstant (.bool true) ['r', 'u', 'e'] rest
      else if isByte 'f' b then scanConstant (.bool false) ['a', 'l', 's', 'e'] rest
      else if isByte '-' b then scanNumber true rest
      else if isDigitByte b then scanNumber false (b :: rest)
      else if isByte '"' b then scanText rest
      else if isByte '[' b then
        match skipGap rest with
        | [] => (.array [] (some .truncated), none)
        | c :: more =>
          if isByte ']' c then (.array [] none, some more)
          else
            let (items, fault, left) := scanItems fuel (c :: more)
            (.array items fault, left)
      else if isByte '{' b then
        match skipGap rest with
        | [] => (.object [] (some .truncated), none)
        | c :: more =>
          if isByte '}' c then (.object [] none, some more)
          else if isByte '"' c then
            let (members, fault, left) := scanMembers fuel more
            (.object members fault, left)
          else
            let tag := tagCause (scanValue fuel (c :: more)).1
            (.object [] (some { reading := .malformed, closing := tag }), none)
      else (.broken .malformed, none)

/-- The items of a list up to its end, from the first character of an item. -/
def scanItems : Nat → List UInt8 → List Doc × Option Fault × Option (List UInt8)
  | 0, _ => ([], some .truncated, none)
  | fuel + 1, s =>
    match scanValue fuel s with
    | (d, none) => ([d], none, none)
    | (d, some rest) =>
      match skipGap rest with
      | [] => ([d], some .truncated, none)
      | b :: rest =>
        if isByte ']' b then ([d], none, some rest)
        else if isByte ',' b then
          match skipGap rest with
          | [] => ([d], some Fault.truncated.afterComma, none)
          | c :: more =>
            if isByte ']' c then ([d], some .malformed, none)
            else
              let (items, fault, left) := scanItems fuel (c :: more)
              (d :: items, fault, left)
        else ([d], some .malformed, none)

/-- The members of a record up to its end, from behind the opening quote of a name. -/
def scanMembers : Nat → List UInt8 → List (Quoted × Doc) × Option Fault × Option (List UInt8)
  | 0, _ => ([], some .truncated, none)
  | fuel + 1, s =>
    match scanString s with
    | (⟨pieces, some f⟩, _) => ([(⟨pieces, some f⟩, .broken f)], none, none)
    | (⟨pieces, none⟩, rest) =>
      let name : Quoted := ⟨pieces, none⟩
      match skipGap rest with
      | [] => ([(name, .broken .truncated)], none, none)
      | b :: rest =>
        if isByte ':' b then
          match scanValue fuel rest with
          | (d, none) => ([(name, d)], none, none)
          | (d, some rest) =>
            match skipGap rest with
            | [] => ([(name, d)], some .truncated, none)
            | b :: rest =>
              if isByte '}' b then ([(name, d)], none, some rest)
              else if isByte ',' b then
                match skipGap rest with
                | [] => ([(name, d)], some Fault.truncated.afterComma, none)
                | c :: more =>
                  if isByte '"' c then
                    let (members, fault, left) := scanMembers fuel more
                    ((name, d) :: members, fault, left)
                  else ([(name, d)], some .malformed, none)
              else ([(name, d)], some .malformed, none)
        else ([(name, .broken .malformed)], none, none)

end

/-- The tree of a whole text: behind the value there may only be blanks. -/
structure Text where
  doc : Doc
  /-- Something else follows the value. -/
  trailing : Bool
deriving Repr

/-- Scans a whole text. -/
def scanBytes (s : List UInt8) : Text :=
  match scanValue (2 * s.length + 2) s with
  | (doc, none) => ⟨doc, false⟩
  | (doc, some rest) => ⟨doc, !(skipGap rest).isEmpty⟩

end SnapshotViewer.Json
