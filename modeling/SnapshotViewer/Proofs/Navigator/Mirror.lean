import SnapshotViewer.Proofs.Address.RoundTrip
import SnapshotViewer.Proofs.Navigator.Writes

/-!
# The address mirrors the selection

The tab, the view and the filter text of the selection are those of the address in every state
that a navigator can come to: each of the four kinds of writes keeps the two copies alike.

## Main definitions

* `Shown.Stable` — a property that every write keeps.
* `Shown.Mirrored` — the copies are alike.

## Main statements

* `stable_run` — what every write keeps, every run keeps.
* `address_mirrors_selection` — the copies are alike in every state that can be come to.
-/

namespace SnapshotViewer

namespace Shown

/-- A property that every change keeps. -/
def Stable (P : Shown → Prop) : Prop := ∀ s w, P s → P (s.write w)

theorem Stable.writeAll {P : Shown → Prop} (hP : Stable P) {s : Shown} (h : P s)
    (ws : List Write) : P (s.writeAll ws) := by
  induction ws generalizing s with
  | nil => exact h
  | cons w ws ih => exact ih (hP s w h)

/-- Both copies are alike, and the rest of the address is as it was at the start: the name of the
timestamp, and that the timestamp is not zero. -/
structure Mirrored (seed : Address) (s : Shown) : Prop where
  tab : s.address.tab = s.tab
  view : s.address.view = s.view
  filter : s.address.filter = nonEmpty s.filterText
  key : s.address.key = seed.key
  timestamp : seed.timestamp ≠ some 0 → s.address.timestamp ≠ some 0

theorem stable_mirrored (seed : Address) : Stable (Mirrored seed) := by
  intro s w h
  cases w with
  | tab tab => exact { h with tab := rfl, view := rfl, filter := rfl }
  | view view => exact { h with view := rfl }
  | filterText text => exact { h with filter := rfl }
  | timestamp t => exact { h with timestamp := fun _ => bind_nonZero_ne t }

end Shown

namespace Navigator

/-- What every change of the two copies keeps, every operation keeps. -/
theorem stable_run {P : Shown → Prop} (hP : Shown.Stable P) {n : Navigator} (h : P n.shown)
    (ops : List NavigatorOp) : P (n.run ops).shown := by
  refine run_induction (P := fun m => P m.shown) h ops fun m op _ hm => ?_
  rw [shown_apply]
  exact hP.writeAll hm (m.writes op)

/-! ## Both copies are alike -/

theorem mirrored_start (catalog : Catalog) (seed : Address) :
    (start catalog seed).shown.Mirrored seed where
  tab := rfl
  view := rfl
  filter := rfl
  key := rfl
  timestamp := by
    intro hseed
    simp only [shown, start]
    split
    · exact hseed
    · simp

/-- In every state that a navigator can come to, its address has the tab, the view and the filter
text of the selection, and the name of the timestamp that it started with.  If it started from an
address that was read, the timestamp is never zero. -/
theorem address_mirrors_selection {catalog : Catalog} {seed : Address} {n : Navigator}
    (h : Reachable catalog seed n) :
    n.address.tab = n.state.tab ∧ n.address.view = n.state.view ∧
      n.address.filter = (if n.state.filterText = "" then none else some n.state.filterText) ∧
      n.address.key = seed.key ∧
      ∀ text, seed = Address.decode text → n.address.timestamp ≠ some 0 := by
  obtain ⟨ops, rfl⟩ := h
  have hm := stable_run (Shown.stable_mirrored seed) (mirrored_start catalog seed) ops
  refine ⟨hm.tab, hm.view, ?_, hm.key, ?_⟩
  · rw [← nonEmpty_eq]
    exact hm.filter
  · intro text hseed
    refine hm.timestamp ?_
    rw [hseed]
    exact (Address.tidy_decode text).timestamp

/-- A history from an address that was read, with a snapshot from the moment zero. -/
theorem address_mirrors_selection_in_history :
    let seed := Address.decode "tab=pga&filter=idle&pos=1000"
    let n := (start { mode := .history } seed).run
      [.changeTab .pgs, .changeFilterText "vacuum", .onSnapshot { timestamp := 0 }]
    Reachable { mode := .history } seed n ∧
      n.address.tab = n.state.tab ∧ n.address.view = n.state.view ∧
      n.address.filter = (if n.state.filterText = "" then none else some n.state.filterText) ∧
      n.address.key = seed.key ∧
      ∀ text, seed = Address.decode text → n.address.timestamp ≠ some 0 :=
  ⟨⟨_, rfl⟩, address_mirrors_selection ⟨_, rfl⟩⟩

end Navigator

end SnapshotViewer
