import SnapshotViewer.Screen.Glyph

/-!
# Breaking lines

A line that is too long is broken between words, a word that is too long where the line ends.
The blanks at a break are dropped as far as they fit on the line before it.  Blanks at the start
of the text are kept or, when lines are trimmed, dropped.

## Main definitions

* `Wrapping.take` — takes one more glyph.
* `wrap` — the lines that a line is broken into.
-/

namespace SnapshotViewer.Screen

/-- A line that is being broken: the finished lines, the unfinished one, and behind it blanks
and a word that may have to go to the next line. -/
structure Wrapping where
  finished : List (List Glyph) := []
  line : List Glyph := []
  blanks : List Glyph := []
  word : List Glyph := []
  /-- The glyph taken last belongs to a word. -/
  inWord : Bool := false

/-- The glyphs that remain when those in front that fit `room` cells are dropped. -/
def dropFitting (room : Nat) : List Glyph → List Glyph
  | [] => []
  | g :: rest => if g.width ≤ room then dropFitting (room - g.width) rest else g :: rest

namespace Wrapping

/-- The unfinished line together with the blanks and the word behind it. -/
def joined (trim : Bool) (s : Wrapping) : List Glyph :=
  (if s.line.isEmpty && trim then [] else s.line ++ s.blanks) ++ s.word

/-- Adds the blanks and the word to the unfinished line. -/
def settle (trim : Bool) (s : Wrapping) : Wrapping :=
  { s with line := s.joined trim, blanks := [], word := [] }

/-- Adds a glyph to the blanks or to the word. -/
def add (s : Wrapping) (g : Glyph) : Wrapping :=
  if g.isBlank then { s with blanks := s.blanks ++ [g], inWord := false }
  else { s with word := s.word ++ [g], inWord := true }

/-- Whether a glyph leaves no room at the start of a line for what waits there. -/
def overflows (width : Nat) (trim : Bool) (s : Wrapping) (g : Glyph) : Bool :=
  let word := glyphsWidth s.word
  let blanks := glyphsWidth s.blanks
  s.line.isEmpty && if trim then word + g.width > width || blanks + g.width > width
    else word + blanks + g.width > width

/-- Whether the unfinished line has no room for a further glyph. -/
def isFull (width : Nat) (s : Wrapping) (g : Glyph) : Bool :=
  glyphsWidth s.line ≥ width
    || (g.width > 0 && glyphsWidth s.line + glyphsWidth s.blanks + glyphsWidth s.word ≥ width)

/-- Finishes the line. -/
def breakLine (width : Nat) (s : Wrapping) : Wrapping :=
  { s with
    finished := s.finished ++ [s.line]
    line := []
    blanks := dropFitting (width - glyphsWidth s.line) s.blanks }

/-- Takes one more glyph. -/
def take (width : Nat) (trim : Bool) (s : Wrapping) (g : Glyph) : Wrapping :=
  if g.width > width then s
  else
    let ends := (s.inWord && g.isBlank) || s.overflows width trim g
    let s := if ends then s.settle trim else s
    if s.isFull width g then
      let s := s.breakLine width
      if g.isBlank && s.blanks.isEmpty then s else s.add g
    else s.add g

/-- The lines when there are no more glyphs. -/
def lines (trim : Bool) (s : Wrapping) : List (List Glyph) :=
  let onlyBlanks := s.line.isEmpty && s.word.isEmpty && !s.blanks.isEmpty
  let last := s.joined trim
  let all := s.finished ++ (if onlyBlanks then [[]] else [])
    ++ (if last.isEmpty then [] else [last])
  if all.isEmpty then [[]] else all

end Wrapping

/-- The lines that a line is broken into. -/
def wrap (width : Nat) (trim : Bool) (line : List Glyph) : List (List Glyph) :=
  (line.foldl (Wrapping.take width trim) {}).lines trim

end SnapshotViewer.Screen
