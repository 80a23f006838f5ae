import SnapshotViewer.Text.CaseTable

/-!
# Lower case

Lower-casing of a whole text: letter by letter, except that a capital sigma becomes the final
small sigma at the end of a word, and a dotted capital I becomes two characters.
-/

namespace SnapshotViewer.Text

/-- Whether a code point lies in one of the ranges. -/
def inRanges (ranges : List (Nat × Nat)) (n : Nat) : Bool :=
  ranges.any fun r => r.1 ≤ n && n ≤ r.2

/-- Whether a letter has case. -/
def isCased (c : Char) : Bool :=
  if c.toNat < 0x80 then c.isAlpha else inRanges casedRanges c.toNat

/-- Whether a character leaves open whether the word goes on. -/
def isTransparent (c : Char) : Bool := inRanges transparentRanges c.toNat

/-- The small letters of a character that stands alone. -/
def lowerChar (c : Char) : List Char :=
  if c.toNat < 0x80 then [c.toLower]
  else if c = 'İ' then ['i', '\u0307']
  else
    match caseRuns.find? fun r =>
      r.first ≤ c.toNat && c.toNat ≤ r.last && (c.toNat - r.first) % r.stride == 0 with
    | some r => [Char.ofNat (c.toNat + r.shift).toNat]
    | none => [c]

/-- Whether the first character that is not transparent is a cased letter. -/
def startsCased (cs : List Char) : Bool :=
  match cs.dropWhile isTransparent with
  | [] => false
  | c :: _ => isCased c

/-- Lower-cases `cs`, given the characters before it, the nearest first. -/
def lowerAfter : List Char → List Char → List Char
  | _, [] => []
  | before, c :: rest =>
    let small :=
      if c = 'Σ' then
        if startsCased before && !startsCased rest then ['ς'] else ['σ']
      else lowerChar c
    small ++ lowerAfter (c :: before) rest

/-- Lower-cases a list of characters. -/
def lowerChars (cs : List Char) : List Char := lowerAfter [] cs

/-- Lower-cases a text. -/
def lower (s : String) : String := String.ofList (lowerChars s.toList)

/-- Whether `needle` occurs in `cs` as a block of neighbours. -/
def containsChars (needle : List Char) : List Char → Bool
  | [] => needle.isEmpty
  | c :: rest => needle.isPrefixOf (c :: rest) || containsChars needle rest

/-- Whether the text `needle` occurs in `s`. -/
def contains (s needle : String) : Bool := containsChars needle.toList s.toList

end SnapshotViewer.Text
