import SnapshotViewer.Identity
import SnapshotViewer.Screen.Glyph
import SnapshotViewer.Viewer.Basic

/-!
# What the screen shows

The content of the parts of the screen, as a function of the state of the program: the header,
the table, the footer and the popups.  Where it is drawn is decided elsewhere.
-/

namespace SnapshotViewer.Screen

namespace Style

/-- The header. -/
def header : Style := { fg := some .white, bg := some .blue, bold := true }
/-- The caption of the tab that is shown. -/
def activeTab : Style := { fg := some .cyan, bg := some .blue, bold := true, reversed := true }
/-- What matters less. -/
def dim : Style := { fg := some .darkGray }
/-- The captions of the columns. -/
def captions : Style := { fg := some .cyan, bold := true }
/-- The chosen row. -/
def selected : Style := { bg := some .darkGray, bold := true }
/-- The row that a drill-down has led to. -/
def flash : Style := { fg := some .black, bg := some .yellow, bold := true }
/-- What has to be noticed. -/
def key : Style := { fg := some .yellow }
/-- Errors. -/
def error : Style := { fg := some .red, bold := true }
/-- The frame of a popup. -/
def popup : Style := { fg := some .cyan }

end Style

/-- A text with blanks behind it, at least `width` characters long. -/
def padRight (width : Nat) (s : String) : String :=
  s ++ String.ofList (List.replicate (width - s.length) ' ')

/-- The sign at the end of a text that is being typed. -/
def cursor : String := "█"

/-! ## Header -/

/-- The moment of the snapshot that is shown. -/
def timeText (v : Viewer) : String :=
  " " ++ match v.store.current with
    | some s => timestampText s.timestamp
    | none => "----"

/-- The kind of the source. -/
def modeText (v : Viewer) : String :=
  if !v.source.isLive then " HISTORY " else if v.isPaused then " PAUSED " else " LIVE "

/-- The captions of the tabs. -/
def tabsLine (active : Collection) : StyledLine :=
  Collection.all.flatMap fun k =>
    [⟨" " ++ toString (k.index + 1) ++ ":", .header⟩,
     ⟨k.label, if k = active then .activeTab else .header⟩]

/-- How things stand with the server. -/
def connectionText (v : Viewer) : String :=
  match v.connection with
  | .connecting => "connecting..."
  | .connected =>
    match v.session.username with
    | some user => user ++ "@" ++ v.session.baseUrl
    | none => v.session.baseUrl
  | .reconnecting => "reconnecting..."
  | .reauthRequired => "auth required"

/-! ## Table -/

/-- A row of the table. -/
structure TableRow where
  cells : List String
  flashed : Bool
deriving DecidableEq, Repr

/-- The table. -/
structure Table where
  captions : List String
  rows : List TableRow
  /-- The position of the highlighted row. -/
  highlighted : Option Nat
deriving DecidableEq, Repr

/-- The title of the table. -/
def tableTitle (n : Navigator) : String :=
  match n.effectiveView with
  | some view => " " ++ n.state.tab.label ++ " [" ++ view ++ "] "
  | none => " " ++ n.state.tab.label ++ " "

/-- The columns of the table: those of the view, else the fields of the first row. -/
def tableColumns (n : Navigator) : List String :=
  match n.catalog.columnsFor n.state.tab n.effectiveView with
  | [] =>
    match n.visibleRows with
    | r :: _ => (r.entries n.state.tab).map (·.1)
    | [] => []
  | columns => columns

/-- The position of the last row with an identity. -/
def lastPosition? (rows : List Row) (id : EntityId) : Option Nat :=
  ((rows.zipIdx.filter (·.1.id = id)).getLast?).map (·.2)

/-- The table of the visible rows. -/
def table (n : Navigator) : Table where
  captions := (tableColumns n).map (n.catalog.columnLabel n.state.tab)
  rows := n.visibleRows.map fun r =>
    { cells := (tableColumns n).map fun column =>
        ((r.field? n.state.tab column).map (·.display)).getD ""
      flashed := n.flash = some r.id }
  highlighted := n.state.selected.bind (lastPosition? n.visibleRows)

/-! ## Footer -/

/-- What is filtered, what is looked for, and how many rows there are. -/
def overviewLine (n : Navigator) : StyledLine :=
  let pending := match n.pending with
    | some p =>
      let wanted := p.field ++ "=" ++ p.value.display
      [⟨"Looking for " ++ wanted ++ " in " ++ p.tab.label ++ " ", .key⟩]
    | none => []
  let text := n.state.filterText
  let filter := if text.isEmpty then [] else [⟨"/" ++ text ++ " ", {}⟩]
  let column := match n.state.columnFilter with
    | some f => [⟨"[" ++ f.display ++ "] ", {}⟩]
    | none => []
  pending ++ filter ++ column
    ++ [⟨toString n.visibleRows.length ++ " rows  ?: help", .dim⟩]

/-- The last line of the screen: what is being typed, else a hint, else an error, else an
overview. -/
def footerLine (v : Viewer) : StyledLine :=
  if v.input.mode = .filter then
    [⟨"Filter: ", .key⟩, ⟨v.input.filterInput ++ cursor, {}⟩]
  else
    match v.input.status, v.store.error with
    | some hint, _ => [⟨hint, .key⟩]
    | none, some e => [⟨e, .error⟩]
    | none, none => overviewLine v.nav

/-! ## Popups -/

/-- A popup. -/
structure Popup where
  title : String
  lines : List StyledLine
deriving DecidableEq, Repr

/-- The fields of the chosen row. -/
def detailPopup (n : Navigator) : Popup :=
  let k := n.state.tab
  match n.selectedRow? with
  | some r =>
    { title := " " ++ k.label ++ " " ++ r.id.display ++ " "
      lines := (r.entries k).map fun (field, value) =>
        [⟨padRight 24 (n.catalog.columnLabel k field), .key⟩, ⟨value.display, {}⟩] }
  | none => { title := " " ++ k.label ++ " ", lines := [[⟨"Row is no longer present", .dim⟩]] }

/-- The prompt for a time expression. -/
def timeJumpPopup (i : InputState) : Popup :=
  let fault := match i.timeJumpError with
    | some e => [[], [⟨"Error: " ++ e, .error⟩]]
    | none => []
  { title := " Jump to time (UTC) "
    lines :=
      [[⟨"Input: ", .key⟩, ⟨i.timeJumpInput ++ cursor, { bold := true }⟩],
       [],
       [⟨"Examples:", .dim⟩],
       [⟨"  -1h        (relative to shown snapshot)", .dim⟩],
       [⟨"  16:00      (time on shown day)", .dim⟩],
       [⟨"  2026-02-07T17:00:00", .dim⟩],
       [⟨"  1738944000 (unix timestamp)", .dim⟩]] ++ fault }

/-- The keys and what they do. -/
def keyBindings (isLive : Bool) : List (String × String) :=
  [("1-8, Tab", "switch tab"),
   ("j/k, ↑/↓", "move selection"),
   ("PgUp/PgDn", "move by page"),
   ("Home/End", "first / last row"),
   ("Enter", "toggle detail"),
   (">", "drill down"),
   ("Esc", "close detail, clear selection, clear column filter"),
   ("/", "filter"),
   ("v", "next view")]
  ++ (if isLive then [("Space", "pause / resume")]
    else
      [("←/→", "previous / next snapshot"),
       ("Shift+←/→", "one hour back / forward"),
       ("b", "jump to time")])
  ++ [("?", "close help"), ("q, Ctrl+C", "quit")]

/-- The help. -/
def helpPopup (isLive : Bool) : Popup where
  title := " " ++ programTitle ++ " "
  lines := (keyBindings isLive).map fun (keys, what) =>
    [⟨"  " ++ padRight 12 keys, .key⟩, ⟨what, {}⟩]

end SnapshotViewer.Screen
