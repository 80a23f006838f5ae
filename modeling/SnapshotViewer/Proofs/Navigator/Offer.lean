import SnapshotViewer.Proofs.Navigator.Deferral

/-!
# Drill-downs from the chosen row

A row offers a drill-down if everything is there that it takes: a description that names a known
collection, a snapshot, a row of it that is chosen, and a value in the field that leads away from
it.  If any of it is missing then nothing happens.  Otherwise the tab of the target is entered, the
first row that has the value is chosen there at once, and the list is cut down to the rows that
agree with the source row in the field to filter by, if there is one.

The target may be on the tab of the source, its rows may share an identity, and the fields to look
at may be left to the catalog; none of this makes a difference here.

## Main definitions

* `Offers` — the drill-down that the chosen row offers.
* `Followed` — what following it leads to.

## Main statements

* `asked?_drillDownSelected_iff` — what is asked for is what is offered.
* `drill_from_chosen_row` — all that a drill-down from the chosen row does.
-/

namespace SnapshotViewer.Navigator

/-- The chosen row `r` offers the drill-down `d`, to the rows of `tab` that have the value `v`. -/
structure Offers (n : Navigator) (d : DrillDown) (tab : Collection) (s : Snapshot) (r : Row)
    (v : Scalar) : Prop where
  described : n.catalog.drillDown? n.state.tab = some d
  known : d.targetTab? = some tab
  shown : n.current = some s
  /-- Of the rows with the chosen identity the first one counts. -/
  chosen : ∃ id, n.state.selected = some id ∧ s.find? n.state.tab id = some r
  value : r.field? n.state.tab d.via = some v
  present : v.isNull = false

/-- What following such a drill-down leads to. -/
structure Followed (n : Navigator) (d : DrillDown) (tab : Collection) (s : Snapshot) (r : Row)
    (v : Scalar) (m : Navigator) : Prop where
  /-- The tab is entered, with its default view and without a filter text. -/
  entered : m.state.tab = tab ∧ m.state.view = none ∧ m.state.filterText = ""
  /-- The address says so too. -/
  address : m.address = { n.address with tab, view := none, filter := none }
  /-- The first row that has the value is chosen, its details are open and it is marked, and nothing
  waits for it any more.  The column filter is for a value of the source row, if it has one in the
  field that is to be filtered by, and otherwise there is none. -/
  landed : ∀ front x back, s.rows tab = front ++ x :: back →
    (∃ w, x.field? tab (d.targetField.getD (n.catalog.entityField tab)) = some w ∧
      w.agrees v = true) →
    (∀ y ∈ front, ∀ w, y.field? tab (d.targetField.getD (n.catalog.entityField tab)) = some w →
      w.agrees v = false) →
    m.state.selected = some x.id ∧ m.state.detailOpen = true ∧ m.flash = some x.id ∧
      m.pending = none ∧
      ∀ f, m.state.columnFilter = some f ↔ d.filterTarget = some f.column ∧
        ∃ via, d.filterVia = some via ∧ r.field? n.state.tab via = some f.value ∧
          f.value.isNull = false

variable {n : Navigator} {d : DrillDown} {tab : Collection} {s : Snapshot} {r : Row} {v : Scalar}
  {p : Pending}

/-! ## What is offered -/

theorem drillSource?_eq_some_iff : n.drillSource? = some (d, v, r) ↔
    n.catalog.drillDown? n.state.tab = some d ∧
      (∃ s, n.current = some s ∧
        ∃ id, n.state.selected = some id ∧ s.find? n.state.tab id = some r) ∧
      r.field? n.state.tab d.via = some v ∧ v.isNull = false := by
  simp only [drillSource?, selectedRow?, Option.bind_eq_bind, Option.bind_eq_some_iff,
    Option.filter_eq_some_iff, Option.pure_def, Option.some.injEq, Prod.mk.injEq,
    Bool.not_eq_true']
  constructor
  · rintro ⟨d, hd, r, hr, v, hv, rfl, rfl, rfl⟩
    exact ⟨hd, hr, hv⟩
  · rintro ⟨hd, hr, hv⟩
    exact ⟨d, hd, r, hr, v, hv, rfl, rfl, rfl⟩

/-- What is asked for from the chosen row is what that row offers. -/
theorem asked?_drillDownSelected_iff : n.asked? .drillDownSelected = some p ↔
    ∃ d tab s r v, n.Offers d tab s r v ∧ n.pendingFor d tab v n.state.tab r = p := by
  simp only [asked?, Option.bind_eq_bind, Option.bind_eq_some_iff, Option.pure_def,
    Option.some.injEq]
  constructor
  · rintro ⟨⟨d, v, r⟩, hsource, tab, htab, hp⟩
    obtain ⟨hd, ⟨s, hs, hr⟩, hv, hpresent⟩ := drillSource?_eq_some_iff.1 hsource
    exact ⟨d, tab, s, r, v, ⟨hd, htab, hs, hr, hv, hpresent⟩, hp⟩
  · rintro ⟨d, tab, s, r, v, h, hp⟩
    have hsource : n.drillSource? = some (d, v, r) :=
      drillSource?_eq_some_iff.2 ⟨h.described, ⟨s, h.shown, h.chosen⟩, h.value, h.present⟩
    exact ⟨(d, v, r), hsource, tab, h.known, hp⟩

theorem drillDownSelected_of_offers (h : n.Offers d tab s r v) :
    n.drillDownSelected = (n.ask (n.pendingFor d tab v n.state.tab r), true) := by
  rw [drillDownSelected_eq, asked?_drillDownSelected_iff.2 ⟨d, tab, s, r, v, h, rfl⟩]

/-! ## What following it leads to -/

theorem carriedFilter_eq_some_iff {source : Collection} {f : ColumnFilter} :
    carriedFilter d source r = some f ↔ d.filterTarget = some f.column ∧
      ∃ via, d.filterVia = some via ∧ r.field? source via = some f.value ∧
        f.value.isNull = false := by
  unfold carriedFilter
  split
  · next column via hcolumn hvia =>
    simp only [Option.map_eq_some_iff, Option.filter_eq_some_iff, hcolumn, hvia, Option.some.injEq,
      Bool.not_eq_true']
    constructor
    · rintro ⟨v, hv, rfl⟩
      exact ⟨rfl, via, rfl, hv⟩
    · rintro ⟨rfl, via, rfl, hv⟩
      exact ⟨f.value, hv, rfl⟩
  · next hnone =>
    constructor
    · rintro ⟨⟩
    · rintro ⟨hcolumn, via, hvia, -⟩
      exact absurd hvia (hnone _ _ hcolumn)

/-- A drill-down enters its tab, whether its target is there or not. -/
theorem entered_ask (n : Navigator) (p : Pending) :
    (n.ask p).state.tab = p.tab ∧ (n.ask p).state.view = none ∧
      (n.ask p).state.filterText = "" := by
  cases hr : n.current.bind p.target? with
  | some r => rw [state_ask_of_hit hr]; exact ⟨rfl, rfl, rfl⟩
  | none => rw [state_ask_of_miss hr]; exact ⟨rfl, rfl, rfl⟩

theorem address_ask (n : Navigator) (p : Pending) :
    (n.ask p).address = { n.address with tab := p.tab, view := none, filter := none } := by
  have happlied : ∀ f, ((n.await p).applyFilter f).address =
      { n.address with tab := p.tab, view := none, filter := none } := fun f => by
    cases f <;> rfl
  cases hr : n.current.bind p.target? with
  | some r => rw [ask_of_hit hr]; exact happlied p.filter
  | none => rw [ask_of_miss hr]; exact happlied _

theorem fits_eq_true_iff {x : Row} : p.fits x = true ↔
    ∃ w, x.field? p.tab p.field = some w ∧ w.agrees p.value = true := by
  simp [Pending.fits, Option.any_eq_true]

theorem fits_eq_false_iff {x : Row} : p.fits x = false ↔
    ∀ w, x.field? p.tab p.field = some w → w.agrees p.value = false := by
  simp [Pending.fits, Option.any_eq_false]

/-- A drill-down that is offered is followed. -/
theorem Offers.followed (h : n.Offers d tab s r v) :
    n.Followed d tab s r v (n.ask (n.pendingFor d tab v n.state.tab r)) where
  entered := entered_ask n _
  address := address_ask n _
  landed := by
    intro front x back hrows hx hfront
    have htarget : (n.pendingFor d tab v n.state.tab r).target? s = some x :=
      target?_eq_some_iff.2 ⟨fits_eq_true_iff.2 hx, front, back, hrows,
        fun y hy => fits_eq_false_iff.2 (hfront y hy)⟩
    have hhit : n.current.bind (n.pendingFor d tab v n.state.tab r).target? = some x := by
      rw [h.shown]
      exact htarget
    rw [state_ask_of_hit hhit, flash_ask, pending_ask, hhit]
    exact ⟨rfl, rfl, rfl, rfl, fun f => carriedFilter_eq_some_iff⟩

theorem drillDownSelected_accepted_iff : n.drillDownSelected.2 = true ↔
    ∃ d tab s r v, n.Offers d tab s r v := by
  constructor
  · intro haccepted
    obtain ⟨p, hp⟩ : ∃ p, n.asked? .drillDownSelected = some p :=
      exists_asked_of_accepted haccepted
    obtain ⟨d, tab, s, r, v, h, -⟩ := asked?_drillDownSelected_iff.1 hp
    exact ⟨d, tab, s, r, v, h⟩
  · rintro ⟨d, tab, s, r, v, h⟩
    rw [drillDownSelected_of_offers h]

theorem drillDownSelected_of_refused (h : n.drillDownSelected.2 = false) :
    n.drillDownSelected.1 = n := by
  have hnone : n.asked? .drillDownSelected = none := asked?_of_refused h
  rw [drillDownSelected_eq, hnone]

/-- A drill-down from the chosen row is accepted exactly if the row offers one.  Then it is
followed, and otherwise nothing changes. -/
theorem drill_from_chosen_row (n : Navigator) :
    (n.drillDownSelected.2 = true ↔ ∃ d tab s r v, n.Offers d tab s r v) ∧
    (n.drillDownSelected.2 = false → n.drillDownSelected.1 = n) ∧
    ∀ d tab s r v, n.Offers d tab s r v → n.Followed d tab s r v n.drillDownSelected.1 := by
  refine ⟨drillDownSelected_accepted_iff, drillDownSelected_of_refused, ?_⟩
  intro d tab s r v h
  rw [drillDownSelected_of_offers h]
  exact h.followed

/-- From a lock to the first one that its session waits for, which is on the same tab. -/
example :
    let locks : List Row :=
      [⟨.int 7, [("awaits", .text "8"), ("mode", .text "share")]⟩,
        ⟨.int 8, [("mode", .null)]⟩, ⟨.int 8, [("mode", .text "share")]⟩]
    let toHolder : DrillDown :=
      { target := "pgl", via := "awaits", filterVia := some "mode", filterTarget := some "mode" }
    let locksTab : Tab := { name := "locks", entityId := "", drillDown := some toHolder }
    let catalog : Catalog := { mode := .live, tabs := [(.pgl, locksTab)] }
    let n := (start catalog { tab := .pgl }).run
      [.onSnapshot { timestamp := 1000, tables := { pgl := locks } }, .selectRow (some (.int 7))]
    n.drillDownSelected.2 = true ∧ n.drillDownSelected.1.state =
      { tab := .pgl, selected := some (.int 8), detailOpen := true
        columnFilter := some ⟨"mode", .text "share"⟩ } := by
  decide +kernel

end SnapshotViewer.Navigator
