import SnapshotViewer.Proofs.Navigator.Arrival

/-!
# Edits and arrivals

Whoever types a filter, changes the view or opens the details does so while snapshots arrive.  It
makes no difference which of the two comes first.  Both are edits, and the edits that such
operations stand for are `Apart` from those of an arrival: an arrival sets the moment of the address
and gives a choice up together with its details, while they change other parts of the address, and
open details only where a row is chosen.

A drill-down that waits resets the view and brings its column filter when it is decided, so only the
filter text is apart from that too.

## Main definitions

* `Address.Independent`, `Edit.Apart` — changes that can be exchanged.
* `NavigatorOp.isEdit`, `editOf` — the operations that edit what is shown, and their edits.

## Main statements

* `edit_comm` — edits that are apart can be exchanged, and the notes they make as well.
* `apart_arrival` — the operations that edit what is shown are apart from an arrival.
* `onSnapshot_edit_comm` — they can be exchanged with it.
-/

namespace SnapshotViewer

/-- Whether an operation edits what is shown on the tab: the details, the view or a filter. -/
def NavigatorOp.isEdit : NavigatorOp → Bool
  | .changeFilterText _ | .changeView _ | .cycleView | .setColumnFilter _ | .clearColumnFilter
  | .openDetail | .closeDetail | .toggleDetail => true
  | _ => false

/-! ## Changes of an address -/

namespace Address

attribute [ext] Address

/-- Changes of an address that have nothing to do with each other: neither makes a difference to
what the other one does, nor to whether that is a difference to the address. -/
structure Independent (f g : Address → Address) : Prop where
  comm : ∀ a, g (f a) = f (g a)
  first : ∀ a, f (g a) = g a ↔ f a = a
  second : ∀ a, g (f a) = f a ↔ g a = a

theorem independent_id_left (g : Address → Address) : Independent id g := by
  constructor <;> simp

theorem independent_id_right (f : Address → Address) : Independent f id := by
  constructor <;> simp

theorem independent_view_timestamp (v : Option String) (t : Option Int) :
    Independent (fun a => { a with view := v }) fun a => { a with timestamp := t } := by
  constructor <;> simp [Address.ext_iff]

theorem independent_filter_timestamp (f : Option String) (t : Option Int) :
    Independent (fun a => { a with filter := f }) fun a => { a with timestamp := t } := by
  constructor <;> simp [Address.ext_iff]

theorem independent_filter_view (f v : Option String) :
    Independent (fun a => { a with filter := f }) fun a => { a with view := v } := by
  constructor <;> simp [Address.ext_iff]

end Address

/-! ## Edits of what is shown -/

namespace Edit

/-- Chooses a view. -/
def view (v : Option String) : Edit where
  selection x := { x with view := v }
  address a := { a with view := v }

/-- Changes the filter text. -/
def filterText (text : String) : Edit where
  selection x := { x with filterText := text }
  address a := { a with filter := nonEmpty text }

/-- Changes the column filter, which no address is about. -/
def columnFilter (f : Option ColumnFilter) : Edit where
  selection x := { x with columnFilter := f }

/-- Opens or closes the details, which no address is about either.  That depends on whether a row is
chosen and on whether the details are open. -/
def detail (isOpen : Bool → Bool → Bool) : Edit where
  selection x := { x with detailOpen := isOpen x.selected.isSome x.detailOpen }

/-- Puts the column filter of a drill-down into force, with the default view. -/
def reset (f : ColumnFilter) : Edit where
  selection x := { x with view := none, columnFilter := some f }
  address a := { a with view := none }

/-- Edits that can be exchanged. -/
structure Apart (e d : Edit) : Prop where
  selection : ∀ x, d.selection (e.selection x) = e.selection (d.selection x)
  address : Address.Independent e.address d.address

theorem apart_filterText_reset (text : String) (f : ColumnFilter) :
    (filterText text).Apart (reset f) :=
  ⟨fun _ => rfl, Address.independent_filter_view _ _⟩

end Edit

/-- A change of the selection can be exchanged with giving the choice up if it leaves the choice
alone and can be exchanged with clearing it. -/
theorem Selection.settle_comm {f : Selection → Selection} {x : Selection} {s : Snapshot}
    {flash : Option EntityId} (hlost : (f x).isLost s = x.isLost s)
    (hclear : f { x with selected := none, detailOpen := false } =
      { f x with selected := none, detailOpen := false }) :
    (f x).settle s flash = f (x.settle s flash) := by
  by_cases h : flash = none ∧ x.isLost s = true
  · rw [settle, settle, if_pos h, hlost, if_pos h, hclear]
  · rw [settle, settle, if_neg h, hlost, if_neg h]

namespace Navigator

variable {n : Navigator} {s : Snapshot} {e d : Edit} {op : NavigatorOp}

/-- Edits that are apart can be exchanged, and the notes they make as well. -/
theorem edit_comm (h : e.Apart d) : (n.edit e).edit d = (n.edit d).edit e := by
  ext1
  case state => exact h.selection n.state
  case address => exact h.address.comm n.address
  case dirty =>
    simp only [edit, persist, ne_eq, h.address.first, h.address.second]
    exact Bool.or_right_comm ..
  all_goals rfl

/-! ## Operations that edit what is shown -/

/-- The edit that an operation stands for. -/
def editOf (n : Navigator) : NavigatorOp → Edit
  | .changeFilterText text => .filterText text
  | .changeView v => .view (v.bind nonEmpty)
  | .cycleView =>
    match n.nextView? with
    | none => {}
    | some next =>
      .view (if n.catalog.defaultView? n.state.tab = some next then none else nonEmpty next)
  | .setColumnFilter f => .columnFilter (some f)
  | .clearColumnFilter => .columnFilter none
  | .openDetail => .detail fun isChosen isOpen => isChosen || isOpen
  | .closeDetail => .detail fun _ _ => false
  | .toggleDetail => .detail fun isChosen isOpen => isChosen && !isOpen
  | _ => {}

theorem edit_columnFilter (n : Navigator) (f : Option ColumnFilter) :
    n.edit (.columnFilter f) = { n with state := { n.state with columnFilter := f } } :=
  persist_eq_self rfl

theorem edit_detail (n : Navigator) (isOpen : Bool → Bool → Bool) : n.edit (.detail isOpen) =
    { n with
      state :=
        { n.state with detailOpen := isOpen n.state.selected.isSome n.state.detailOpen } } :=
  persist_eq_self rfl

theorem edit_openDetail (n : Navigator) : n.edit (n.editOf .openDetail) = n.openDetail := by
  rw [editOf, edit_detail, openDetail]
  cases n.state.selected.isSome with
  | true => rfl
  | false => rfl

theorem edit_toggleDetail (n : Navigator) : n.edit (n.editOf .toggleDetail) = n.toggleDetail := by
  rw [editOf, edit_detail, toggleDetail, closeDetail, openDetail]
  obtain ⟨catalog, ⟨tab, selected, isOpen, view, filterText, columnFilter⟩, _⟩ := n
  cases isOpen with
  | true => cases selected <;> rfl
  | false => cases selected <;> rfl

theorem edit_cycleView (n : Navigator) : n.edit (n.editOf .cycleView) = n.cycleView := by
  rw [editOf, cycleView]
  cases n.nextView? with
  | none => exact edit_eq_self rfl rfl
  | some next =>
    by_cases hdefault : n.catalog.defaultView? n.state.tab = some next
    · simp only [hdefault, if_true]
      rfl
    · simp only [hdefault, if_false]
      rfl

/-- What edits what is shown is an edit. -/
theorem apply_eq_edit (h : op.isEdit = true) : n.apply op = n.edit (n.editOf op) := by
  cases op with
  | changeFilterText text => rfl
  | changeView v => rfl
  | cycleView => exact (edit_cycleView n).symm
  | setColumnFilter f => exact (edit_columnFilter n (some f)).symm
  | clearColumnFilter => exact (edit_columnFilter n none).symm
  | openDetail => exact (edit_openDetail n).symm
  | closeDetail => exact (edit_detail n fun _ _ => false).symm
  | toggleDetail => exact (edit_toggleDetail n).symm
  | _ => cases h

/-- The next view depends on the tab and on its view, which taking a snapshot over does not
change. -/
theorem editOf_receive (n : Navigator) (s : Snapshot) (op : NavigatorOp) :
    (n.receive s).editOf op = n.editOf op := by
  cases op with
  | cycleView =>
    have hnext : (n.receive s).nextView? = n.nextView? := by
      rw [nextView?, nextView?, effectiveView, effectiveView, catalog_receive, tab_receive,
        view_receive]
    rw [editOf, editOf, hnext, catalog_receive, tab_receive]
  | _ => rfl

/-! ## Edits and arrivals -/

theorem independent_arrival {f : Address → Address}
    (h : ∀ t, Address.Independent f fun a => { a with timestamp := t }) :
    Address.Independent f (n.arrival s).address := by
  rw [arrival]
  cases n.catalog.mode with
  | history => exact h _
  | live => exact Address.independent_id_right f

theorem apart_view (v : Option String) : (Edit.view v).Apart (n.arrival s) where
  selection _ := Selection.settle_comm rfl rfl
  address := independent_arrival (Address.independent_view_timestamp v)

theorem apart_filterText (text : String) : (Edit.filterText text).Apart (n.arrival s) where
  selection _ := Selection.settle_comm rfl rfl
  address := independent_arrival (Address.independent_filter_timestamp _)

theorem apart_columnFilter (f : Option ColumnFilter) :
    (Edit.columnFilter f).Apart (n.arrival s) where
  selection _ := Selection.settle_comm rfl rfl
  address := Address.independent_id_left _

/-- Details that are not opened without a row to show. -/
theorem apart_detail (isOpen : Bool → Bool → Bool) (h : isOpen false false = false) :
    (Edit.detail isOpen).Apart (n.arrival s) where
  selection x := Selection.settle_comm rfl (by simp [Edit.detail, h])
  address := Address.independent_id_left _

/-- What edits what is shown is apart from what the arrival of a snapshot edits. -/
theorem apart_arrival (h : op.isEdit = true) : (n.editOf op).Apart (n.arrival s) := by
  cases op with
  | changeFilterText text => exact apart_filterText text
  | changeView v => exact apart_view _
  | cycleView =>
    rw [editOf]
    cases n.nextView? with
    | none => exact ⟨fun _ => rfl, Address.independent_id_left _⟩
    | some next => exact apart_view _
  | setColumnFilter f => exact apart_columnFilter (some f)
  | clearColumnFilter => exact apart_columnFilter none
  | openDetail => exact apart_detail (fun isChosen isOpen => isChosen || isOpen) rfl
  | closeDetail => exact apart_detail (fun _ _ => false) rfl
  | toggleDetail => exact apart_detail (fun isChosen isOpen => isChosen && !isOpen) rfl
  | _ => cases h

/-- An edit that is apart from an arrival can be made before a snapshot is taken over or after. -/
theorem receive_edit (h : e.Apart (n.arrival s)) : (n.edit e).receive s = (n.receive s).edit e := by
  have hshown : { n.edit e with current := some s } = { n with current := some s }.edit e := rfl
  have hsame : (n.edit e).arrival s = n.arrival s := rfl
  rw [receive_eq_edit, receive_eq_edit, hshown, hsame, edit_comm h]

/-- The drill-down that waits is decided without a look at the filter text, and leaves it alone. -/
theorem resolve_edit (n : Navigator) (s : Snapshot) (text : String) :
    (n.edit (.filterText text)).resolve s true = (n.resolve s true).edit (.filterText text) := by
  have hfilter : ∀ f, (n.edit (.filterText text)).applyFilter f =
      (n.applyFilter f).edit (.filterText text) := by
    intro f
    cases f with
    | none => rfl
    | some f => exact edit_comm (Edit.apart_filterText_reset text f)
  cases hp : n.pending with
  | none => simp only [resolve, edit, pending_persist, hp]
  | some p =>
    have hp' : (n.edit (.filterText text)).pending = some p := hp
    cases hr : p.target? s with
    | some r =>
      rw [resolve_of_hit true hp' hr, resolve_of_hit true hp hr, hfilter]
      rfl
    | none =>
      rw [resolve_last_of_miss hp' hr, resolve_last_of_miss hp hr, hfilter]
      rfl

theorem resolveOnArrival_edit (n : Navigator) (s : Snapshot) (text : String) :
    (n.edit (.filterText text)).resolveOnArrival s =
      (n.resolveOnArrival s).edit (.filterText text) := by
  have hpending : (n.edit (.filterText text)).pending = n.pending := rfl
  have htab : (n.edit (.filterText text)).state.tab = n.state.tab := rfl
  rw [resolveOnArrival, resolveOnArrival, hpending, htab]
  cases n.pending with
  | none => rfl
  | some p =>
    dsimp only
    split
    · exact resolve_edit n s text
    · rfl

/-- While no drill-down waits, whatever edits what is shown on the tab can be exchanged with the
arrival of a snapshot.  The filter text can be changed before or after it even while one waits. -/
theorem onSnapshot_edit_comm (n : Navigator) (s : Snapshot) :
    (n.pending = none → ∀ op : NavigatorOp, op.isEdit = true →
      (n.apply op).onSnapshot s = (n.onSnapshot s).apply op) ∧
    ∀ text, (n.changeFilterText text).onSnapshot s = (n.onSnapshot s).changeFilterText text := by
  constructor
  · intro hidle op hop
    have hidle' : (n.edit (n.editOf op)).pending = none := hidle
    rw [apply_eq_edit hop, onSnapshot_of_idle hidle', onSnapshot_of_idle hidle,
      apply_eq_edit hop, editOf_receive, receive_edit (apart_arrival hop)]
  · intro text
    have hreceive := receive_edit (n := n) (s := s) (apart_filterText text)
    calc (n.changeFilterText text).onSnapshot s
        = ((n.edit (.filterText text)).receive s).resolveOnArrival s := rfl
      _ = ((n.receive s).edit (.filterText text)).resolveOnArrival s := by rw [hreceive]
      _ = (n.onSnapshot s).changeFilterText text := resolveOnArrival_edit (n.receive s) s text

/-- The details are opened before or after the snapshot that no longer has the chosen process. -/
theorem onSnapshot_edit_comm_of_lost_process :
    let shown : Snapshot :=
      { timestamp := 1000, tables := { prc := [{ id := .int 42, fields := [] }] } }
    let later : Snapshot := { timestamp := 1010 }
    let chosen := (start { mode := .history } {}).run
      [.changeTab .prc, .onSnapshot shown, .selectFirst]
    (chosen.state.selected = some (.int 42) ∧ (chosen.onSnapshot later).state.selected = none ∧
        chosen.pending = none ∧ NavigatorOp.toggleDetail.isEdit = true) ∧
      (chosen.apply .toggleDetail).onSnapshot later =
        (chosen.onSnapshot later).apply .toggleDetail := by
  intro shown later chosen
  have hidle : chosen.pending = none := by decide +kernel
  exact ⟨⟨by decide +kernel, by decide +kernel, hidle, rfl⟩,
    (onSnapshot_edit_comm chosen later).1 hidle .toggleDetail rfl⟩

end Navigator

end SnapshotViewer
