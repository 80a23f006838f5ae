/-!
# Text as bytes

The UTF-8 form of a text, and the reading of arbitrary bytes as UTF-8.

Reading is described once, by `scan`: it splits any bytes into characters and faults, a fault
being the longest start of a character that the next byte does not continue.  `decode?` refuses
a fault and `decode` puts the replacement character in its place.
-/

namespace SnapshotViewer.Text

/-- The UTF-8 form of a list of characters. -/
def encodeChars (cs : List Char) : List UInt8 := cs.flatMap String.utf8EncodeChar

/-- The UTF-8 form of a text. -/
def encode (s : String) : List UInt8 := encodeChars s.toList

/-- What the first byte of a longer character asks for: the number of further bytes and the
range of the first of them, which keeps out overlong forms, surrogates and code points beyond
the last one. -/
def continuations? (b : Nat) : Option (Nat × Nat × Nat) :=
  if b < 0xC2 then none
  else if b ≤ 0xDF then some (1, 0x80, 0xBF)
  else if b = 0xE0 then some (2, 0xA0, 0xBF)
  else if b = 0xED then some (2, 0x80, 0x9F)
  else if b ≤ 0xEF then some (2, 0x80, 0xBF)
  else if b = 0xF0 then some (3, 0x90, 0xBF)
  else if b ≤ 0xF3 then some (3, 0x80, 0xBF)
  else if b = 0xF4 then some (3, 0x80, 0x8F)
  else none

/-- Reads `count` further bytes, the first of them within `low .. high`, into the code point
`point`; stops in front of the first byte that does not belong. -/
def continued : (count low high point : Nat) → List UInt8 → Option Char × List UInt8
  | 0, _, _, point, rest => (some (Char.ofNat point), rest)
  | _ + 1, _, _, _, [] => (none, [])
  | count + 1, low, high, point, b :: rest =>
    if low ≤ b.toNat ∧ b.toNat ≤ high then
      continued count 0x80 0xBF (point * 64 + b.toNat % 64) rest
    else (none, b :: rest)

theorem length_continued_le (count low high point : Nat) (bs : List UInt8) :
    (continued count low high point bs).2.length ≤ bs.length := by
  fun_induction continued count low high point bs <;> grind

/-- The bits of the code point that the first byte of a longer character holds. -/
def leadBits (b count : Nat) : Nat := b % Nat.pow 2 (6 - count)

/-- The first character of `b :: rest`, or `none` for a fault, and what follows it. -/
def scanOne (b : UInt8) (rest : List UInt8) : Option Char × List UInt8 :=
  if b.toNat < 0x80 then (some (Char.ofNat b.toNat), rest)
  else
    match continuations? b.toNat with
    | none => (none, rest)
    | some (count, low, high) => continued count low high (leadBits b.toNat count) rest

theorem length_scanOne_le (b : UInt8) (rest : List UInt8) :
    (scanOne b rest).2.length ≤ rest.length := by
  unfold scanOne
  split
  · simp
  · split
    · simp
    · exact length_continued_le ..

/-- The characters of a byte sequence in order, `none` standing for a fault. -/
def scan : List UInt8 → List (Option Char)
  | [] => []
  | b :: rest => (scanOne b rest).1 :: scan (scanOne b rest).2
termination_by bs => bs.length
decreasing_by
  have := length_scanOne_le b rest
  simp only [List.length_cons]
  omega

/-- The character that stands for bytes that are no text. -/
def replacement : Char := '\uFFFD'

/-- Reads bytes as text, with a replacement character for each fault. -/
def decode (bs : List UInt8) : String :=
  String.ofList ((scan bs).map (·.getD replacement))

/-- Reads bytes as text; `none` when they hold a fault. -/
def decode? (bs : List UInt8) : Option String :=
  ((scan bs).mapM id).map String.ofList

end SnapshotViewer.Text
