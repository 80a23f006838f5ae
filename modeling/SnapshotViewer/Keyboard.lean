import SnapshotViewer.Navigator.Run
import SnapshotViewer.Time.Expression
import SnapshotViewer.Timeline

/-!
# The keyboard

What the keys do.  Most of them command the navigator; those that concern the source of the
snapshots, or the end of the program, are handed back as actions.  Besides the navigator there
is a state of its own: two prompts, the help, and a hint that the next key takes away.
-/

namespace SnapshotViewer

/-- A key. -/
inductive KeyCode where
  | char (c : Char)
  | enter
  | esc
  | backspace
  | tab
  | backTab
  | up
  | down
  | left
  | right
  | home
  | pageUp
  | pageDown
  | toEnd
  /-- Any other key. -/
  | other
deriving DecidableEq, Repr

/-- A key that is pressed, with the keys held down besides. -/
structure Key where
  code : KeyCode
  shift : Bool := false
  ctrl : Bool := false
  alt : Bool := false
deriving DecidableEq, Repr

/-- What a key asks of the rest of the program. -/
inductive KeyAction where
  | none
  | quit
  | togglePause
  | historyStep (step : HistoryStep)
  | jumpTo (timestamp : Int)
deriving DecidableEq, Repr

/-- What the keys are for at the moment. -/
inductive InputMode where
  | normal
  /-- A filter text is being typed. -/
  | filter
  /-- A time expression is being typed. -/
  | timeJump
deriving DecidableEq, Repr

/-- The state of the keyboard. -/
structure InputState where
  isLive : Bool
  mode : InputMode := .normal
  filterInput : String := ""
  timeJumpInput : String := ""
  timeJumpError : Option String := none
  showHelp : Bool := false
  status : Option String := none
deriving DecidableEq, Repr

/-- The state after a key, and what the key asks for. -/
structure KeyResult where
  input : InputState
  nav : Navigator
  action : KeyAction := .none
deriving DecidableEq, Repr

namespace InputState

/-- The rows that a page key moves by. -/
def pageRows : Int := 20

/-- The hint when there is nowhere to drill down to. -/
def nothingToDrill : String := "Nothing to drill into"

/-- The character of a key that types one: neither control nor alt is held down. -/
def typed? (k : Key) : Option Char :=
  match k.code with
  | .char c => if k.ctrl || k.alt then none else some c
  | _ => none

/-- A text without its last character. -/
def withoutLast (s : String) : String := String.ofList s.toList.dropLast

/-- The tab that a digit chooses. -/
def digitTab? (c : Char) : Option Collection :=
  if '1' ≤ c ∧ c ≤ '9' then Collection.ofIndex? (c.toNat - '1'.toNat) else none

/-- A key while the help is shown. -/
def helpKey (i : InputState) (n : Navigator) (k : Key) : KeyResult :=
  match k.code with
  | .char 'q' | .char 'Q' => ⟨i, n, .quit⟩
  | .char '?' | .esc => ⟨{ i with showHelp := false }, n, .none⟩
  | _ => ⟨i, n, .none⟩

/-- The escape key: closes the details, else gives up the chosen row, else the column filter. -/
def escape (n : Navigator) : Navigator :=
  if n.state.detailOpen then n.closeDetail
  else if n.state.selected.isSome then n.selectRow none
  else n.clearColumnFilter

/-- Drills down from the chosen row, or says that there is nothing to drill into. -/
def drill (i : InputState) (n : Navigator) : KeyResult :=
  match n.drillDownSelected with
  | (n, true) => ⟨i, n, .none⟩
  | (n, false) => ⟨{ i with status := some nothingToDrill }, n, .none⟩

/-- A character key while nothing is being typed. -/
def normalChar (i : InputState) (n : Navigator) (c : Char) : KeyResult :=
  match digitTab? c with
  | some tab => ⟨i, n.changeTab tab, .none⟩
  | none =>
    match c with
    | 'q' | 'Q' => ⟨i, n, .quit⟩
    | '?' => ⟨{ i with showHelp := true }, n, .none⟩
    | 'j' => ⟨i, n.step 1, .none⟩
    | 'k' => ⟨i, n.step (-1), .none⟩
    | '>' => i.drill n
    | '/' => ⟨{ i with filterInput := n.state.filterText, mode := .filter }, n, .none⟩
    | 'v' => ⟨i, n.cycleView, .none⟩
    | ' ' => ⟨i, n, if i.isLive then .togglePause else .none⟩
    | 'b' =>
      if i.isLive then ⟨i, n, .none⟩
      else ⟨{ i with timeJumpInput := "", timeJumpError := none, mode := .timeJump }, n, .none⟩
    | _ => ⟨i, n, .none⟩

/-- A key while nothing is being typed. -/
def normalKey (i : InputState) (n : Navigator) (k : Key) : KeyResult :=
  let timeline (near far : HistoryStep) : KeyAction :=
    if i.isLive then .none else .historyStep (if k.shift then far else near)
  match k.code with
  | .char c => i.normalChar n c
  | .tab => ⟨i, n.changeTab n.state.tab.next, .none⟩
  | .backTab => ⟨i, n.changeTab n.state.tab.prev, .none⟩
  | .down => ⟨i, n.step 1, .none⟩
  | .up => ⟨i, n.step (-1), .none⟩
  | .pageDown => ⟨i, n.step pageRows, .none⟩
  | .pageUp => ⟨i, n.step (-pageRows), .none⟩
  | .home => ⟨i, n.selectFirst, .none⟩
  | .toEnd => ⟨i, n.selectLast, .none⟩
  | .enter => ⟨i, n.toggleDetail, .none⟩
  | .esc => ⟨i, escape n, .none⟩
  | .left => ⟨i, n, timeline .back .hourBack⟩
  | .right => ⟨i, n, timeline .forward .hourForward⟩
  | .backspace | .other => ⟨i, n, .none⟩

/-- A key while a filter text is being typed: enter applies it, escape drops it. -/
def filterKey (i : InputState) (n : Navigator) (k : Key) : KeyResult :=
  match k.code with
  | .esc => ⟨{ i with filterInput := "", mode := .normal }, n, .none⟩
  | .enter =>
    ⟨{ i with filterInput := "", mode := .normal }, n.changeFilterText i.filterInput, .none⟩
  | .backspace => ⟨{ i with filterInput := withoutLast i.filterInput }, n, .none⟩
  | _ =>
    match typed? k with
    | some c => ⟨{ i with filterInput := i.filterInput.push c }, n, .none⟩
    | none => ⟨i, n, .none⟩

/-- A key while a time expression is being typed: enter evaluates it, seen from the snapshot
that is shown or else from `now`, and one that names no moment stays. -/
def timeJumpKey (now : Int) (i : InputState) (n : Navigator) (k : Key) : KeyResult :=
  let closed := { i with timeJumpInput := "", timeJumpError := none, mode := .normal }
  match k.code with
  | .esc => ⟨closed, n, .none⟩
  | .enter =>
    match parseTime i.timeJumpInput ((n.current.map (·.timestamp)).getD now) with
    | .ok ts => ⟨closed, n, .jumpTo ts⟩
    | .error e => ⟨{ i with timeJumpError := some e.message }, n, .none⟩
  | .backspace =>
    ⟨{ i with timeJumpInput := withoutLast i.timeJumpInput, timeJumpError := none }, n, .none⟩
  | _ =>
    match typed? k with
    | some c =>
      ⟨{ i with timeJumpInput := i.timeJumpInput.push c, timeJumpError := none }, n, .none⟩
    | none => ⟨i, n, .none⟩

/-- What a key does.  Control and `c` end the program whatever is being typed. -/
def handleKey (now : Int) (i : InputState) (n : Navigator) (k : Key) : KeyResult :=
  if k.ctrl && k.code = .char 'c' then ⟨i, n, .quit⟩
  else
    let i := { i with status := none }
    match i.mode with
    | .normal => if i.showHelp then i.helpKey n k else i.normalKey n k
    | .filter => i.filterKey n k
    | .timeJump => i.timeJumpKey now n k

end InputState

end SnapshotViewer
