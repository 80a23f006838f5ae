import SnapshotViewer.Proofs.Navigator.Frame

/-!
# The arrival of a snapshot

Apart from the drill-down that waits, the arrival of a snapshot is an `Edit`: one change of the
selection, where a choice may be given up, and one of the address, where in history the moment is
set.  Either of them has nothing left to do when it is made a second time.  The drill-down that
waits is decided behind them, and what it chooses it also marks, so that the choice is not looked at
again.  Hence an arrival leaves the navigator `Settled` on its snapshot, and in the states that are
settled on a snapshot, and in no others, its arrival changes nothing.

## Main definitions

* `Edit`, `edit` — a change of the selection and of the address.
* `Selection.settle`, `arrival` — what the arrival of a snapshot edits.
* `Received`, `Settled` — a snapshot was taken over, and there is nothing left to do for it.

## Main statements

* `receive_eq_edit` — taking a snapshot over is such an edit.
* `onSnapshot_eq_self_iff` — the arrivals that change nothing.
* `onSnapshot_onSnapshot` — a snapshot that arrives twice.
-/

namespace SnapshotViewer

/-- A change of what is shown: of the selection, and of the address along with it. -/
structure Edit where
  selection : Selection → Selection := id
  address : Address → Address := id

namespace Selection
variable {x : Selection} {s : Snapshot} {flash : Option EntityId}

/-- Whether a snapshot lacks the row that is chosen. -/
def isLost (x : Selection) (s : Snapshot) : Bool :=
  x.selected.any fun id => (s.find? x.tab id).isNone

/-- The selection after a look at a snapshot: a choice that the snapshot lacks is given up, unless
it is marked. -/
def settle (x : Selection) (s : Snapshot) (flash : Option EntityId) : Selection :=
  if flash = none ∧ x.isLost s then { x with selected := none, detailOpen := false } else x

/-- A choice stands if it is marked or if the snapshot has its row. -/
theorem settle_eq_self (h : flash = none → x.isLost s = false) : x.settle s flash = x := by
  refine if_neg ?_
  rintro ⟨hflash, hlost⟩
  rw [h hflash] at hlost
  cases hlost

/-- What is given up is not there to be given up again. -/
theorem isLost_settle (hflash : flash = none) : (x.settle s flash).isLost s = false := by
  by_cases hlost : x.isLost s = true
  · rw [settle, if_pos ⟨hflash, hlost⟩]
    rfl
  · rw [settle, if_neg fun h => hlost h.2]
    simpa using hlost

end Selection

namespace Navigator

variable {n : Navigator} {s : Snapshot}

/-- Makes a change of the selection and of the address. -/
def edit (n : Navigator) (e : Edit) : Navigator :=
  { n with state := e.selection n.state }.persist e.address

/-- A change of the address that makes no difference is not noted. -/
theorem persist_eq_self {change : Address → Address} (h : change n.address = n.address) :
    n.persist change = n := by
  ext1 <;> simp [persist, h]

theorem edit_eq_self {e : Edit} (hs : e.selection n.state = n.state)
    (ha : e.address n.address = n.address) : n.edit e = n := by
  rw [edit, hs]
  exact persist_eq_self ha

/-- What the arrival of a snapshot edits. -/
def arrival (n : Navigator) (s : Snapshot) : Edit where
  selection x := x.settle s n.flash
  address :=
    match n.catalog.mode with
    | .history => fun a => { a with timestamp := nonZero s.timestamp }
    | .live => id

theorem stamp_eq_persist (n : Navigator) (s : Snapshot) :
    n.stamp s = n.persist (n.arrival s).address := by
  simp only [stamp, arrival]
  cases n.catalog.mode with
  | history => rfl
  | live => exact (persist_eq_self rfl).symm

theorem checkLiveness_eq_settle (n : Navigator) (s : Snapshot) :
    n.checkLiveness s = { n with state := n.state.settle s n.flash } := by
  by_cases h : n.flash = none ∧ n.state.isLost s = true
  · obtain ⟨id, hid, hrow⟩ := (Option.any_eq_true _ _).1 h.2
    have hgone : s.find? n.state.tab id = none := by simpa using hrow
    rw [Selection.settle, if_pos h]
    simp [checkLiveness, h.1, hid, hgone]
  · rw [Selection.settle, if_neg h, checkLiveness]
    split
    · next id hflash hid =>
      have hrow : (s.find? n.state.tab id).isSome = true := by
        simpa [hflash, Selection.isLost, hid, Option.isSome_iff_ne_none] using h
      rw [if_pos hrow]
    · rfl

/-- Taking a snapshot over is an edit of the navigator that shows it. -/
theorem receive_eq_edit (n : Navigator) (s : Snapshot) :
    n.receive s = { n with current := some s }.edit (n.arrival s) := by
  rw [receive, stamp_eq_persist, checkLiveness_eq_settle]
  rfl

/-! ## Nothing is left to do -/

/-- A snapshot was taken over: it is shown, in history the address has its moment, and it has the
row that is chosen, unless that is marked. -/
structure Received (s : Snapshot) (n : Navigator) : Prop where
  current : n.current = some s
  timestamp : n.catalog.mode = .history → n.address.timestamp = nonZero s.timestamp
  choice : n.flash = none → n.state.isLost s = false

/-- A snapshot was taken over, and no drill-down waits any more. -/
structure Settled (s : Snapshot) (n : Navigator) : Prop extends Received s n where
  idle : n.pending = none

namespace Received

/-- Taking the same snapshot over again changes nothing. -/
theorem receive_eq (h : Received s n) : n.receive s = n := by
  have hshown : { n with current := some s } = n := by rw [← h.current]
  rw [receive_eq_edit, hshown]
  refine edit_eq_self (Selection.settle_eq_self h.choice) ?_
  simp only [arrival]
  cases hmode : n.catalog.mode with
  | history => simp only [← h.timestamp hmode]
  | live => rfl

theorem applyFilter (h : Received s n) (f : Option ColumnFilter) :
    Received s (n.applyFilter f) := by
  cases f with
  | none => exact h
  | some f => exact ⟨h.current, h.timestamp, h.choice⟩

/-- Nobody asks whether a snapshot has the row that is marked. -/
theorem land (h : Received s n) (id : EntityId) : Received s (n.land id) where
  current := h.current
  timestamp := h.timestamp
  choice := by rintro ⟨⟩

theorem giveUp (h : Received s n) : Received s { n with pending := none } :=
  ⟨h.current, h.timestamp, h.choice⟩

end Received

theorem received_receive (n : Navigator) (s : Snapshot) : Received s (n.receive s) where
  current := current_receive n s
  timestamp := by
    intro hmode
    rw [catalog_receive] at hmode
    rw [receive_eq_edit]
    simp [edit, arrival, hmode]
  choice := by
    intro hflash
    rw [flash_receive] at hflash
    rw [receive_eq_edit]
    exact Selection.isLost_settle hflash

/-- An arrival leaves nothing to do, whether a drill-down was waiting or not, and for whichever
tab. -/
theorem settled_onSnapshot (n : Navigator) (s : Snapshot) : Settled s (n.onSnapshot s) := by
  have hreceived := received_receive n s
  rw [onSnapshot, resolveOnArrival]
  cases hp : (n.receive s).pending with
  | none => exact ⟨hreceived, hp⟩
  | some p =>
    dsimp only
    split
    · cases hr : p.target? s with
      | some r =>
        rw [resolve_of_hit true hp hr]
        exact ⟨(hreceived.applyFilter p.filter).land r.id, rfl⟩
      | none =>
        rw [resolve_last_of_miss hp hr]
        exact ⟨(hreceived.applyFilter p.filter).giveUp, rfl⟩
    · exact ⟨hreceived.giveUp, rfl⟩

/-- The arrival of a snapshot changes nothing exactly if there is nothing left to do for it. -/
theorem onSnapshot_eq_self_iff : n.onSnapshot s = n ↔ Settled s n := by
  constructor
  · intro h
    rw [← h]
    exact settled_onSnapshot n s
  · intro h
    rw [onSnapshot_of_idle h.idle, h.receive_eq]

/-- A snapshot that arrives twice leads to the same state as one that arrives once, whatever was
chosen, marked or waiting before. -/
theorem onSnapshot_onSnapshot (n : Navigator) (s : Snapshot) :
    (n.onSnapshot s).onSnapshot s = n.onSnapshot s :=
  onSnapshot_eq_self_iff.2 (settled_onSnapshot n s)

end Navigator

end SnapshotViewer
