import SnapshotViewer.Screen.Glyph

/-!
# The canvas

A grid of cells that text, frames and styles are drawn on.

## Main definitions

* `Area`, `Canvas`, `Canvas.modify`.
* `Canvas.paint`, `Canvas.write`, `Canvas.clear`, `Canvas.frame`.
* `Canvas.lines`, `Canvas.runs` — what can be seen.
-/

namespace SnapshotViewer.Screen

/-- A rectangle of cells. -/
structure Area where
  x : Nat
  y : Nat
  width : Nat
  height : Nat
deriving DecidableEq, Repr

namespace Area

/-- The rectangle within a frame around this one. -/
def inner (a : Area) : Area := ⟨a.x + 1, a.y + 1, a.width - 2, a.height - 2⟩

/-- The rectangle in the middle that takes so many percent of this one, but at least so much of
it as is given. -/
def popup (a : Area) (percent minWidth minHeight : Nat) : Area :=
  let width := min (max (a.width * percent / 100) minWidth) a.width
  let height := min (max (a.height * percent / 100) minHeight) a.height
  ⟨a.x + (a.width - width) / 2, a.y + (a.height - height) / 2, width, height⟩

end Area

/-- A cell of the screen. -/
structure Cell where
  symbol : List Char := [' ']
  style : Style := {}
deriving DecidableEq, Repr, Inhabited

/-- A grid of cells, row after row. -/
structure Canvas where
  width : Nat
  height : Nat
  cells : Array Cell
deriving DecidableEq, Repr

namespace Canvas

/-- An empty canvas. -/
def blank (width height : Nat) : Canvas := ⟨width, height, Array.replicate (width * height) {}⟩

/-- The whole canvas. -/
def area (c : Canvas) : Area := ⟨0, 0, c.width, c.height⟩

/-- Changes a cell; there are none outside. -/
def modify (c : Canvas) (x y : Nat) (f : Cell → Cell) : Canvas :=
  if x < c.width ∧ y < c.height then { c with cells := c.cells.modify (y * c.width + x) f } else c

/-- Changes all cells of a rectangle. -/
def modifyArea (c : Canvas) (a : Area) (f : Cell → Cell) : Canvas :=
  (List.range a.height).foldl (fun c dy =>
    (List.range a.width).foldl (fun c dx => c.modify (a.x + dx) (a.y + dy) f) c) c

/-- Lays a style over a rectangle. -/
def paint (c : Canvas) (a : Area) (s : Style) : Canvas :=
  c.modifyArea a fun cell => { cell with style := s.onTop cell.style }

/-- Empties a rectangle. -/
def clear (c : Canvas) (a : Area) : Canvas := c.modifyArea a fun _ => {}

/-- Draws a symbol. -/
def put (c : Canvas) (x y : Nat) (symbol : List Char) (s : Style) : Canvas :=
  c.modify x y fun cell => { symbol, style := s.onTop cell.style }

/-- Draws glyphs one after another. -/
def write (c : Canvas) (x y : Nat) : List Glyph → Canvas
  | [] => c
  | g :: rest =>
    if g.width = 0 then c.write x y rest
    else (c.put x y g.symbol g.style).write (x + g.width) y rest

/-- Draws glyphs one after another and empties the cells that wide ones cover. -/
def writeOver (c : Canvas) (x y : Nat) : List Glyph → Canvas
  | [] => c
  | g :: rest =>
    if g.width = 0 then c.writeOver x y rest
    else
      let covered : Area := ⟨x + 1, y, g.width - 1, 1⟩
      ((c.put x y g.symbol g.style).clear covered).writeOver (x + g.width) y rest

/-- Draws lines of glyphs one below the other, as many as fit. -/
def writeLines (c : Canvas) (a : Area) (lines : List (List Glyph)) : Canvas :=
  ((lines.take a.height).foldl (fun (c, y) line => (c.write a.x y line, y + 1)) (c, a.y)).1

/-- Draws a frame with a title. -/
def frame (c : Canvas) (a : Area) (s : Style) (title : List Glyph) : Canvas :=
  let right := a.x + a.width - 1
  let bottom := a.y + a.height - 1
  let c := (List.range a.width).foldl (fun c dx =>
    (c.put (a.x + dx) a.y ['─'] s).put (a.x + dx) bottom ['─'] s) c
  let c := (List.range a.height).foldl (fun c dy =>
    (c.put a.x (a.y + dy) ['│'] s).put right (a.y + dy) ['│'] s) c
  let c := (c.put a.x a.y ['┌'] s).put right a.y ['┐'] s
  let c := (c.put a.x bottom ['└'] s).put right bottom ['┘'] s
  c.writeOver (a.x + 1) a.y (cut (a.width - 2) title)

/-- The cells of a row. -/
def row (c : Canvas) (y : Nat) : List Cell :=
  (c.cells.extract (y * c.width) ((y + 1) * c.width)).toList

/-- The text of the rows, without blanks at their ends. -/
def lines (c : Canvas) : List String :=
  (List.range c.height).map fun y =>
    String.ofList (Text.dropEnd Text.isBlank ((c.row y).flatMap (·.symbol)))

/-- The style of a cell as it looks. -/
def look (s : Style) : Style :=
  { s with fg := some (s.fg.getD .reset), bg := some (s.bg.getD .reset) }

/-- The longest runs of cells that look alike: where they start, their length and their look. -/
def runsFrom (x : Nat) : List Cell → List (Nat × Nat × Style)
  | [] => []
  | cell :: rest =>
    let s := look cell.style
    match runsFrom (x + 1) rest with
    | (start, n, t) :: more =>
      if s = t then (x, n + 1, t) :: more else (x, 1, s) :: (start, n, t) :: more
    | [] => [(x, 1, s)]

/-- The runs of a row that look like something. -/
def runs (c : Canvas) (y : Nat) : List (Nat × Nat × Style) :=
  (runsFrom 0 (c.row y)).filter fun r => !r.2.2.isPlain

end Canvas

end SnapshotViewer.Screen
