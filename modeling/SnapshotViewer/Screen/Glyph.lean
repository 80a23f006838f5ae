import SnapshotViewer.Text.Blank
import SnapshotViewer.Text.WidthTable

/-!
# Styled text

Text as a terminal shows it: glyphs that take one cell or two, in colours.

## Main definitions

* `Color`, `Style`, `Style.onTop`.
* `Glyph`, `Span`, `StyledLine`, `StyledLine.glyphs`.
* `cut` — the glyphs that fit a width.
-/

namespace SnapshotViewer.Screen

/-- A colour; `reset` is the terminal's own. -/
inductive Color where
  | reset
  | black
  | red
  | yellow
  | blue
  | cyan
  | darkGray
  | white
deriving DecidableEq, Repr

/-- The name of a colour. -/
def Color.name : Color → String
  | .reset => "Reset"
  | .black => "Black"
  | .red => "Red"
  | .yellow => "Yellow"
  | .blue => "Blue"
  | .cyan => "Cyan"
  | .darkGray => "DarkGray"
  | .white => "White"

/-- How text looks, as far as it is laid down. -/
structure Style where
  fg : Option Color := none
  bg : Option Color := none
  bold : Bool := false
  reversed : Bool := false
deriving DecidableEq, Repr

/-- A style on top of another one: what it leaves open stays as it was. -/
def Style.onTop (top below : Style) : Style where
  fg := top.fg.or below.fg
  bg := top.bg.or below.bg
  bold := top.bold || below.bold
  reversed := top.reversed || below.reversed

/-- The text that names a style. -/
def Style.name (s : Style) : String :=
  let color (c : Option Color) : String := (c.getD .reset).name
  let modifiers := (if s.bold then ["BOLD"] else []) ++ (if s.reversed then ["REVERSED"] else [])
  let text := if modifiers.isEmpty then "NONE" else String.intercalate " | " modifiers
  color s.fg ++ "/" ++ color s.bg ++ "/" ++ text

/-- Whether a style looks like no style at all. -/
def Style.isPlain (s : Style) : Bool :=
  s.fg.getD .reset == .reset && s.bg.getD .reset == .reset && !s.bold && !s.reversed

/-- What is drawn into one cell, or two. -/
structure Glyph where
  symbol : List Char
  width : Nat
  style : Style := {}
deriving DecidableEq, Repr

/-- Whether a code point is in one of some ranges. -/
def inRanges (ranges : List (Nat × Nat)) (n : Nat) : Bool :=
  ranges.any fun (low, high) => low ≤ n && n ≤ high

/-- The cells that a character takes.  A control character takes one. -/
def charWidth (c : Char) : Nat :=
  let n := c.toNat
  if n < 0x300 then (if n = 0xAD then 0 else 1)
  else if inRanges Text.zeroWidthRanges n then 0
  else if inRanges Text.wideRanges n then 2
  else 1

/-- The characters of a text, together with those that are drawn into the same cell.  A carriage
return and the line feed behind it belong together. -/
def clusters (cs : List Char) : List (List Char) :=
  cs.foldr (fun c rest =>
    match rest with
    | (d :: ds) :: more =>
      if charWidth d = 0 ∨ (c = '\r' ∧ d = '\n') then (c :: d :: ds) :: more else [c] :: rest
    | _ => [c] :: rest) []

namespace Glyph

/-- The glyph of characters that belong together. -/
def ofCluster (style : Style) (cluster : List Char) : Glyph where
  symbol := cluster
  width := if cluster = ['\r', '\n'] then 1 else cluster.foldl (fun n c => n + charWidth c) 0
  style

/-- Whether a glyph is blank.  A line is not broken at a blank that is meant to keep words
together, but it may be broken where nothing is drawn. -/
def isBlank (g : Glyph) : Bool :=
  g.symbol == ['\u200B'] || (g.symbol.all Text.isBlank && g.symbol != ['\u00A0'])

end Glyph

/-- The cells that some glyphs take. -/
def glyphsWidth (gs : List Glyph) : Nat := gs.foldl (fun n g => n + g.width) 0

/-- Text in one style. -/
structure Span where
  text : String
  style : Style := {}
deriving DecidableEq, Repr

/-- A line of text in several styles. -/
abbrev StyledLine := List Span

/-- The glyphs of a piece of text; line feeds draw nothing. -/
def Span.glyphs (s : Span) : List Glyph :=
  ((clusters s.text.toList).filter (· ≠ ['\n'])).map (Glyph.ofCluster s.style)

/-- The glyphs of a line. -/
def StyledLine.glyphs (l : StyledLine) : List Glyph := l.flatMap Span.glyphs

/-- The lines of a text; the line feed that ends the last one starts no further line. -/
def textLines (s : String) : List String :=
  let parts := s.splitOn "\n"
  let parts := if parts.getLast? = some "" then parts.dropLast else parts
  parts.map fun line =>
    match line.toList.reverse with
    | '\r' :: rest => String.ofList rest.reverse
    | _ => line

/-- The first line of a text. -/
def firstLine (s : String) : String := (textLines s).headD ""

/-- The glyphs in front that fit `width` cells. -/
def cut (width : Nat) : List Glyph → List Glyph
  | [] => []
  | g :: rest => if g.width ≤ width then g :: cut (width - g.width) rest else []

end SnapshotViewer.Screen
