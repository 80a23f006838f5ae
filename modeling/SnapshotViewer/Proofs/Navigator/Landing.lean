import SnapshotViewer.Proofs.Navigator.Deferral
import SnapshotViewer.Proofs.Navigator.Liveness

/-!
# Where drill-downs land

A drill-down looks for its target by one field of the rows and lists the rows of its tab by another
one, the column filter that it brings.  The two come from different fields of the source row and
are independent: the target is the first row that has the value, whether or not the filter leaves
it.  So the row that is chosen can be hidden, and it is listed exactly if it passes the filter
itself, or another row with its identity does.

## Main definitions

* `Lands` — a drill-down finds its target, when it is asked for or when a snapshot arrives.

## Main statements

* `mem_visibleRows_iff` — the rows that are listed behind a drill-down.
* `landing_listed_iff` — when the chosen row is one of them.
* `landing_hidden_of_renamed_table` — a row that is chosen and not listed.
-/

namespace SnapshotViewer.Navigator

/-- With `op` the drill-down `p` finds its target, the row `r` of the snapshot `s`: it is asked for
and the snapshot that is shown has the target, or it waits on its tab and the one that arrives
does. -/
inductive Lands (n : Navigator) : NavigatorOp → Pending → Snapshot → Row → Prop
  | asked {op : NavigatorOp} {p : Pending} {s : Snapshot} {r : Row} (asked : n.asked? op = some p)
      (shown : n.current = some s) (found : p.target? s = some r) : Lands n op p s r
  | arrived {p : Pending} {s : Snapshot} {r : Row} (waits : n.pending = some p)
      (here : p.tab = n.state.tab) (found : p.target? s = some r) : Lands n (.onSnapshot s) p s r

variable {n : Navigator} {op : NavigatorOp} {p : Pending} {s : Snapshot} {r x : Row}
  {f : ColumnFilter}

namespace Lands

theorem found (h : n.Lands op p s r) : p.target? s = some r := by
  cases h with
  | asked _ _ found => exact found
  | arrived _ _ found => exact found

/-- Either way the drill-down lands on its own tab and on the snapshot that is shown. -/
theorem exists_apply_eq (h : n.Lands op p s r) : ∃ m : Navigator, m.state.tab = p.tab ∧
    m.current = some s ∧ n.apply op = (m.applyFilter p.filter).land r.id := by
  cases h with
  | asked asked shown found =>
    refine ⟨n.await p, rfl, shown, ?_⟩
    rw [apply_of_asked asked]
    exact ask_of_hit (by rw [shown]; exact found)
  | arrived waits here found =>
    refine ⟨n.receive s, by rw [tab_receive, here], current_receive n s, ?_⟩
    rw [apply, onSnapshot_of_pending waits here]
    exact resolve_of_hit true (by rw [pending_receive, waits]) found

theorem selected_eq (h : n.Lands op p s r) : (n.apply op).state.selected = some r.id := by
  obtain ⟨m, -, -, heq⟩ := h.exists_apply_eq
  rw [heq]
  rfl

theorem columnFilter_eq (h : n.Lands op p s r) (hf : p.filter = some f) :
    (n.apply op).state.columnFilter = some f := by
  obtain ⟨m, -, -, heq⟩ := h.exists_apply_eq
  rw [heq, hf]
  rfl

/-- Behind it those rows of the tab are listed that pass its column filter and the filter text. -/
theorem mem_visibleRows_iff (h : n.Lands op p s r) (hf : p.filter = some f) :
    x ∈ (n.apply op).visibleRows ↔ x ∈ s.rows p.tab ∧ f.passes p.tab x = true ∧
      x.matchesText (needleOf (n.apply op).state.filterText) = true := by
  obtain ⟨m, htab, hcurrent, heq⟩ := h.exists_apply_eq
  have hshown : (n.apply op).current = some s := by rw [heq]; simpa [land] using hcurrent
  have hthere : (n.apply op).state.tab = p.tab := by rw [heq]; simpa [land] using htab
  rw [visibleRows, hshown, hthere, h.columnFilter_eq hf]
  exact Snapshot.mem_visible_iff

end Lands

/-- An empty filter text hides no row. -/
theorem matchesText_needleOf_empty (x : Row) : x.matchesText (needleOf "") = true := by
  have hneedle : needleOf "" = "" := by decide +kernel
  rw [hneedle]
  rfl

/-- A drill-down that brings a column filter chooses the first row that has the value it looks for
and puts the filter into force.  Without a filter text the identity that is chosen is listed exactly
if a row of the tab with that identity passes the filter, and the row that was found is listed
exactly if it does so itself. -/
theorem landing_listed_iff (h : n.Lands op p s r) (hf : p.filter = some f) :
    (n.apply op).state.selected = some r.id ∧ (n.apply op).state.columnFilter = some f ∧
      ((n.apply op).state.filterText = "" →
        ((∃ x ∈ (n.apply op).visibleRows, x.id = r.id) ↔
          ∃ x ∈ s.rows p.tab, x.id = r.id ∧ f.passes p.tab x = true) ∧
        (r ∈ (n.apply op).visibleRows ↔ f.passes p.tab r = true)) := by
  refine ⟨h.selected_eq, h.columnFilter_eq hf, fun hempty => ?_⟩
  have hlisted : ∀ x, x ∈ (n.apply op).visibleRows ↔
      x ∈ s.rows p.tab ∧ f.passes p.tab x = true := fun x => by
    rw [h.mem_visibleRows_iff hf, hempty, matchesText_needleOf_empty]
    simp
  constructor
  · constructor
    · rintro ⟨x, hx, hid⟩
      obtain ⟨hrow, hpasses⟩ := (hlisted x).1 hx
      exact ⟨x, hrow, hid, hpasses⟩
    · rintro ⟨x, hrow, hid, hpasses⟩
      exact ⟨x, (hlisted x).2 ⟨hrow, hpasses⟩, hid⟩
  · rw [hlisted, and_iff_right (Pending.mem_of_target h.found)]

/-- From a table to its index, with the snapshot that has both still to come. -/
theorem landing_listed_index :
    let orders : Row := ⟨.int 10, [("display_name", .text "public.orders")]⟩
    let users : Row := ⟨.int 100, [("display_table", .text "public.users"), ("relid", .int 20)]⟩
    let key : Row := ⟨.int 101, [("display_table", .text "public.orders"), ("relid", .int 10)]⟩
    let s : Snapshot := { timestamp := 50, tables := { pgt := [orders], pgi := [users, key] } }
    let d : DrillDown :=
      { target := "pgi", via := "relid", targetField := some "relid"
        filterVia := some "display_name", filterTarget := some "display_table" }
    let f : ColumnFilter := ⟨"display_table", .text "public.orders"⟩
    let p : Pending :=
      { tab := .pgi, field := "relid", value := .int 10, filter := some f, requestedAt := none }
    let n := (start { mode := .history } { tab := .pgt }).run
      [.requestDrillDown d (.int 10) .pgt orders]
    n.Lands (.onSnapshot s) p s key ∧ (n.onSnapshot s).state.filterText = "" ∧
      (n.onSnapshot s).state.selected = some (.int 101) ∧
      (n.onSnapshot s).state.columnFilter = some f ∧ key ∈ (n.onSnapshot s).visibleRows := by
  intro orders users key s d f p n
  have hlands : n.Lands (.onSnapshot s) p s key :=
    .arrived (by decide +kernel) (by decide +kernel) (by decide +kernel)
  have hempty : (n.onSnapshot s).state.filterText = "" := by decide +kernel
  have hpasses : f.passes .pgi key = true := by decide +kernel
  obtain ⟨hselected, hfilter, hlisted⟩ := landing_listed_iff hlands rfl
  exact ⟨hlands, hempty, hselected, hfilter, (hlisted hempty).2.2 hpasses⟩

/-- A table was renamed, and one of its indexes still has the old name of the table, so that the
filter for the new name hides it.  The drill-down chooses it all the same, although there is
another index that is listed. -/
theorem landing_hidden_of_renamed_table :
    let orders : Row := ⟨.int 10, [("display_name", .text "public.orders")]⟩
    let stale : Row := ⟨.int 100, [("display_table", .text "orders"), ("relid", .int 10)]⟩
    let key : Row := ⟨.int 101, [("display_table", .text "public.orders"), ("relid", .int 10)]⟩
    let s : Snapshot := { timestamp := 50, tables := { pgt := [orders], pgi := [stale, key] } }
    let d : DrillDown :=
      { target := "pgi", via := "relid", targetField := some "relid"
        filterVia := some "display_name", filterTarget := some "display_table" }
    let f : ColumnFilter := ⟨"display_table", .text "public.orders"⟩
    let n := (start { mode := .live } { tab := .pgt }).onSnapshot s
    let p := n.pendingFor d .pgi (.int 10) .pgt orders
    let m := n.apply (.requestDrillDown d (.int 10) .pgt orders)
    n.Lands (.requestDrillDown d (.int 10) .pgt orders) p s stale ∧ p.filter = some f ∧
      m.state.filterText = "" ∧ m.selectedRow? = some stale ∧ f.passes .pgi stale = false ∧
      ∀ x ∈ m.visibleRows, m.state.selected ≠ some x.id := by
  intro orders stale key s d f n p m
  have hasked : n.asked? (.requestDrillDown d (.int 10) .pgt orders) = some p := by decide +kernel
  refine ⟨.asked hasked (current_onSnapshot _ s) (by decide +kernel), ?_⟩
  decide +kernel

end SnapshotViewer.Navigator
