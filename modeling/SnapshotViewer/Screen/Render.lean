import SnapshotViewer.Screen.Canvas
import SnapshotViewer.Screen.Content
import SnapshotViewer.Screen.Wrap

/-!
# Drawing the screen

Where the parts of the screen are drawn: the header in the first row, the footer in the last,
the table between them, and popups on top.

## Main definitions

* `tableWindow`, `columnArea` — which rows and where the columns are drawn.
* `render` — the screen.
-/

namespace SnapshotViewer.Screen

/-- The quotient that is nearest; a half goes up. -/
def roundDiv (p q : Nat) : Nat := (2 * p + q) / (2 * q)

/-- Where column `i` of `n` is drawn: the columns share the width evenly, with one cell between
them, and their ends are rounded to whole cells. -/
def columnArea (a : Area) (n i : Nat) : Area :=
  let start := roundDiv (i * (a.width + 1)) n
  let stop := roundDiv ((i + 1) * (a.width + 1)) n - 1
  { a with x := a.x + start, width := stop - start }

/-- The first row that is drawn, of a table with room for so many: the highlighted row is the
last one when it would not be seen otherwise. -/
def tableWindow (room : Nat) (highlighted : Option Nat) : Nat :=
  match highlighted with
  | some i => i + 1 - room
  | none => 0

/-- The glyphs of a text in one style. -/
def glyphsOf (s : String) (style : Style) : List Glyph := Span.glyphs ⟨s, style⟩

/-- Draws the cells of a row of the table. -/
def drawCells (c : Canvas) (a : Area) (cells : List String) : Canvas :=
  cells.zipIdx.foldl (fun c (text, i) =>
    let place := columnArea a cells.length i
    c.writeOver place.x place.y (cut place.width (glyphsOf (firstLine text) {}))) c

/-- Draws the table. -/
def drawTable (c : Canvas) (a : Area) (n : Navigator) : Canvas :=
  let c := c.frame a {} (glyphsOf (tableTitle n) {})
  let inside := a.inner
  if n.current.isNone then
    c.writeLines inside [cut inside.width (glyphsOf "Waiting for data..." {})]
  else
    let t := table n
    let line (y : Nat) : Area := { inside with y := inside.y + y, height := 1 }
    let c := drawCells (c.paint (line 0) .captions) (line 0) t.captions
    let room := inside.height - 1
    let first := tableWindow room t.highlighted
    ((t.rows.drop first).take room).zipIdx.foldl (fun c (r, i) =>
      let place := line (i + 1)
      let c := drawCells (if r.flashed then c.paint place .flash else c) place r.cells
      if t.highlighted = some (first + i) then c.paint place .selected else c) c

/-- Draws the header. -/
def drawHeader (c : Canvas) (a : Area) (v : Viewer) : Canvas :=
  let c := c.paint a .header
  let connection := cut 30 (glyphsOf (firstLine (connectionText v)) .header)
  let c := c.write a.x a.y (cut 21 (glyphsOf (timeText v) .header))
  let c := c.write (a.x + 21) a.y (cut 10 (glyphsOf (modeText v) .header))
  let c := c.write (a.x + 31) a.y (cut (a.width - 61) (tabsLine v.nav.state.tab).glyphs)
  c.write (a.x + a.width - glyphsWidth connection) a.y connection

/-- Draws the footer. -/
def drawFooter (c : Canvas) (a : Area) (v : Viewer) : Canvas :=
  c.write a.x a.y (cut a.width (footerLine v).glyphs)

/-- Draws a popup; `trim` says how its lines are broken, which are cut without it. -/
def drawPopup (c : Canvas) (a : Area) (p : Popup) (trim : Option Bool) : Canvas :=
  let inside := a.inner
  let lines := p.lines.flatMap fun line =>
    match trim with
    | some trim => wrap inside.width trim line.glyphs
    | none => [cut inside.width line.glyphs]
  ((c.clear a).frame a .popup (glyphsOf p.title {})).writeLines inside lines

/-- The screen. -/
def render (v : Viewer) (width height : Nat) : Canvas :=
  let c := Canvas.blank width height
  let area := c.area
  let c := drawHeader c { area with height := 1 } v
  let c := drawTable c { area with y := 1, height := height - 2 } v.nav
  let c := drawFooter c { area with y := height - 1, height := 1 } v
  let c := if v.nav.state.detailOpen then
      drawPopup c (area.popup 70 40 10) (detailPopup v.nav) (some false)
    else c
  let c := if v.input.mode = .timeJump then
      drawPopup c (area.popup 50 50 11) (timeJumpPopup v.input) (some true)
    else c
  if v.input.showHelp then
    drawPopup c (area.popup 60 50 20) (helpPopup v.source.isLive) none
  else c

end SnapshotViewer.Screen
