import SnapshotViewer.Proofs.Navigator.Arrival

/-!
# Choices that outlive their rows

A snapshot may lack the row that is chosen.  Unless a drill-down has led there, the choice is given
up together with its details; and what a drill-down chooses when the snapshot decides it is one of
the rows of the snapshot.  So a row that is chosen behind an arrival is there to be looked at, or it
was marked before.

Of the rest of the selection an arrival touches the view and the column filter alone, and these only
for a drill-down that brings a filter.

## Main definitions

* `decided?` — the drill-down that an arriving snapshot decides.

## Main statements

* `isLost_onSnapshot` — a snapshot has the row that is chosen behind its arrival.
* `view_onSnapshot`, `columnFilter_onSnapshot` — what becomes of the view and the column filter.
* `selection_behind_arrival` — all that an arrival does to the selection.
-/

namespace SnapshotViewer

/-! ## Rows that are there -/

namespace Selection
variable {x y : Selection} {s : Snapshot}

/-- A choice is lost exactly if no row of the tab has its identity. -/
theorem isLost_iff :
    x.isLost s = true ↔ ∃ id, x.selected = some id ∧ ∀ r ∈ s.rows x.tab, r.id ≠ id := by
  cases hx : x.selected with
  | none => simp [isLost, hx]
  | some id => simp [isLost, hx, Snapshot.find?]

theorem isLost_eq_false_iff :
    x.isLost s = false ↔ ∀ id, x.selected = some id → ∃ r ∈ s.rows x.tab, r.id = id := by
  rw [← Bool.not_eq_true, isLost_iff]
  simp

/-- The tab and the choice alone decide whether the choice is lost. -/
theorem isLost_congr (htab : y.tab = x.tab) (hselected : y.selected = x.selected) :
    y.isLost s = x.isLost s := by
  rw [isLost, isLost, htab, hselected]

section Settle
variable (x : Selection) (s : Snapshot) (flash : Option EntityId)

@[simp] theorem view_settle : (x.settle s flash).view = x.view := by
  unfold settle; split <;> rfl
@[simp] theorem filterText_settle : (x.settle s flash).filterText = x.filterText := by
  unfold settle; split <;> rfl
@[simp] theorem columnFilter_settle : (x.settle s flash).columnFilter = x.columnFilter := by
  unfold settle; split <;> rfl

end Settle

end Selection

/-- The target of a drill-down is one of the rows of its tab. -/
theorem Pending.mem_of_target {p : Pending} {s : Snapshot} {r : Row} (h : p.target? s = some r) :
    r ∈ s.rows p.tab :=
  List.mem_of_find?_eq_some h

namespace Navigator

/-- The drill-down that an arriving snapshot decides: the one that waits on the tab. -/
def decided? (n : Navigator) : Option Pending := n.pending.filter (·.tab = n.state.tab)

variable {n : Navigator} {s : Snapshot} {p : Pending}

theorem decided?_eq_some_iff :
    n.decided? = some p ↔ n.pending = some p ∧ p.tab = n.state.tab := by
  simp [decided?, Option.filter_eq_some_iff]

theorem state_receive (n : Navigator) (s : Snapshot) :
    (n.receive s).state = n.state.settle s n.flash := by
  rw [receive_eq_edit]
  rfl

/-- Without a drill-down to decide, an arrival only looks whether the choice is lost. -/
theorem state_onSnapshot_of_undecided (h : n.decided? = none) :
    (n.onSnapshot s).state = n.state.settle s n.flash := by
  rw [onSnapshot, resolveOnArrival, pending_receive, tab_receive]
  cases hp : n.pending with
  | none => exact state_receive n s
  | some p =>
    have htab : ¬p.tab = n.state.tab := fun htab => by
      simp [decided?_eq_some_iff.2 ⟨hp, htab⟩] at h
    simp only [htab, if_false]
    exact state_receive n s

theorem pending_receive_of_decided (h : n.decided? = some p) (s : Snapshot) :
    (n.receive s).pending = some p := by
  rw [pending_receive]
  exact (decided?_eq_some_iff.1 h).1

theorem onSnapshot_of_decided (h : n.decided? = some p) :
    n.onSnapshot s = (n.receive s).resolve s true :=
  onSnapshot_of_pending (decided?_eq_some_iff.1 h).1 (decided?_eq_some_iff.1 h).2

/-! ## What is chosen -/

/-- A drill-down that is decided chooses one of the rows that are there, or it leaves the choice
alone. -/
theorem isLost_resolve (hp : n.pending = some p) (htab : p.tab = n.state.tab)
    (h : n.state.isLost s = false) : (n.resolve s true).state.isLost s = false := by
  cases hr : p.target? s with
  | some r =>
    rw [resolve_of_hit true hp hr, Selection.isLost_eq_false_iff]
    rintro id ⟨⟩
    refine ⟨r, ?_, rfl⟩
    rw [land, tab_applyFilter, ← htab]
    exact Pending.mem_of_target hr
  | none =>
    rw [resolve_last_of_miss hp hr, ← h]
    exact Selection.isLost_congr (tab_applyFilter n _) (selected_applyFilter n _)

/-- Without a mark, a snapshot has the row that is chosen behind its arrival. -/
theorem isLost_onSnapshot (hflash : n.flash = none) : (n.onSnapshot s).state.isLost s = false := by
  have hsettled : (n.state.settle s n.flash).isLost s = false := Selection.isLost_settle hflash
  cases h : n.decided? with
  | none =>
    rw [state_onSnapshot_of_undecided h]
    exact hsettled
  | some p =>
    have htab : p.tab = (n.receive s).state.tab := by
      rw [tab_receive]
      exact (decided?_eq_some_iff.1 h).2
    rw [onSnapshot_of_decided h]
    exact isLost_resolve (pending_receive_of_decided h s) htab (by rwa [state_receive])

/-! ## The view and the filters -/

theorem view_applyFilter (n : Navigator) (f : Option ColumnFilter) :
    (n.applyFilter f).state.view = if f.isSome then none else n.state.view := by
  cases f <;> rfl

theorem columnFilter_applyFilter (n : Navigator) (f : Option ColumnFilter) :
    (n.applyFilter f).state.columnFilter = f.or n.state.columnFilter := by
  cases f <;> rfl

/-- Whether it finds its target or not, a drill-down puts its column filter into force and changes
nothing else about what is listed. -/
theorem listed_resolve (hp : n.pending = some p) (lastChance : Bool) :
    (n.resolve s lastChance).state.view = (n.applyFilter p.filter).state.view ∧
      (n.resolve s lastChance).state.columnFilter = (n.applyFilter p.filter).state.columnFilter ∧
      (n.resolve s lastChance).state.filterText = n.state.filterText := by
  rw [← filterText_applyFilter n p.filter]
  cases hr : p.target? s with
  | some r =>
    rw [resolve_of_hit lastChance hp hr]
    exact ⟨rfl, rfl, rfl⟩
  | none =>
    cases lastChance with
    | true =>
      rw [resolve_last_of_miss hp hr]
      exact ⟨rfl, rfl, rfl⟩
    | false =>
      rw [resolve_of_miss hp hr]
      exact ⟨rfl, rfl, rfl⟩

/-- A drill-down that brings a column filter resets the view, and nothing else does. -/
theorem view_onSnapshot (n : Navigator) (s : Snapshot) : (n.onSnapshot s).state.view =
    if (n.decided?.bind (·.filter)).isSome then none else n.state.view := by
  cases h : n.decided? with
  | none =>
    rw [state_onSnapshot_of_undecided h]
    exact Selection.view_settle _ _ _
  | some p =>
    have hp := pending_receive_of_decided h s
    rw [onSnapshot_of_decided h, (listed_resolve hp true).1, view_applyFilter, view_receive]
    rfl

/-- The column filter is the one that a drill-down brings, if there is one. -/
theorem columnFilter_onSnapshot (n : Navigator) (s : Snapshot) :
    (n.onSnapshot s).state.columnFilter =
      (n.decided?.bind (·.filter)).or n.state.columnFilter := by
  cases h : n.decided? with
  | none =>
    rw [state_onSnapshot_of_undecided h]
    exact Selection.columnFilter_settle _ _ _
  | some p =>
    have hp := pending_receive_of_decided h s
    rw [onSnapshot_of_decided h, (listed_resolve hp true).2.1, columnFilter_applyFilter,
      state_receive, Selection.columnFilter_settle]
    rfl

theorem filterText_onSnapshot (n : Navigator) (s : Snapshot) :
    (n.onSnapshot s).state.filterText = n.state.filterText := by
  cases h : n.decided? with
  | none =>
    rw [state_onSnapshot_of_undecided h]
    exact Selection.filterText_settle _ _ _
  | some p =>
    have hp := pending_receive_of_decided h s
    rw [onSnapshot_of_decided h, (listed_resolve hp true).2.2, filterText_receive]

/-- If no row is marked, a row that is chosen behind an arrival is one of the rows of the snapshot;
and if no drill-down waits either, the arrival does nothing to the selection but give up a choice
that the snapshot lacks, with its details.  In no case does it change the tab or the filter text,
and it leaves the view and the column filter alone unless a drill-down waits that brings a
filter. -/
theorem selection_behind_arrival (n : Navigator) (s : Snapshot) :
    (n.flash = none → ∀ id, (n.onSnapshot s).state.selected = some id →
      ∃ r ∈ s.rows (n.onSnapshot s).state.tab, r.id = id) ∧
    (n.flash = none → n.pending = none →
      (n.onSnapshot s).state = n.state ∧
          (∀ id, n.state.selected = some id → ∃ r ∈ s.rows n.state.tab, r.id = id) ∨
        (n.onSnapshot s).state = { n.state with selected := none, detailOpen := false } ∧
          ∃ id, n.state.selected = some id ∧ ∀ r ∈ s.rows n.state.tab, r.id ≠ id) ∧
    (n.onSnapshot s).state.tab = n.state.tab ∧
    (n.onSnapshot s).state.filterText = n.state.filterText ∧
    ((n.onSnapshot s).state.view ≠ n.state.view ∨
        (n.onSnapshot s).state.columnFilter ≠ n.state.columnFilter →
      ∃ p f, n.pending = some p ∧ p.filter = some f) := by
  refine ⟨fun hflash => Selection.isLost_eq_false_iff.1 (isLost_onSnapshot hflash), ?_,
    tab_onSnapshot n s, filterText_onSnapshot n s, ?_⟩
  · intro hflash hidle
    have hundecided : n.decided? = none := by rw [decided?, hidle]; rfl
    rw [state_onSnapshot_of_undecided hundecided]
    cases hlost : n.state.isLost s with
    | false =>
      exact .inl ⟨Selection.settle_eq_self fun _ => hlost, Selection.isLost_eq_false_iff.1 hlost⟩
    | true =>
      exact .inr ⟨by rw [Selection.settle, if_pos ⟨hflash, hlost⟩], Selection.isLost_iff.1 hlost⟩
  · intro hchanged
    cases hbrought : n.decided?.bind (·.filter) with
    | none =>
      rw [view_onSnapshot, columnFilter_onSnapshot, hbrought] at hchanged
      simp at hchanged
    | some f =>
      obtain ⟨p, hp, hf⟩ := Option.bind_eq_some_iff.1 hbrought
      exact ⟨p, f, (decided?_eq_some_iff.1 hp).1, hf⟩

end Navigator

end SnapshotViewer
