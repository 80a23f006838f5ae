import SnapshotViewer.Proofs.Address.RoundTrip
import SnapshotViewer.Proofs.Navigator.Frame

/-!
# Round the views of a tab

The next view is the one behind that which is shown, and the first follows the last, so whoever
goes on often enough comes past all of them.  The view that is shown is remembered by its key,
except that the default view is remembered by remembering none: the place in the list has to be
found again from there at each step.  It is found as long as the keys tell the views apart and none
is empty, for an empty key cannot be chosen.

## Main definitions

* `viewKeys` — the keys of the views of the tab.
* `withView` — another view in the state and in the address.

## Main statements

* `exists_cycleView_eq` — a call leads to the view behind the one that is shown.
* `cycle_through_views` — what any number of calls do.
-/

namespace SnapshotViewer.Navigator

/-- The keys of the views of the tab, in their order. -/
def viewKeys (n : Navigator) : List String := (n.catalog.views n.state.tab).map (·.key)

/-- How a view is remembered: the default one by remembering none. -/
def remembered (n : Navigator) (key : String) : Option String :=
  if n.catalog.defaultView? n.state.tab = some key then none else some key

/-- The navigator with another view in the state and in the address, and with that note whether the
address has changed. -/
def withView (n : Navigator) (view : Option String) (dirty : Bool) : Navigator :=
  { n with state := { n.state with view }, address := { n.address with view }, dirty }

variable {n : Navigator} {i : Nat} {key : String}

/-! ## Choosing a view -/

@[simp] theorem viewKeys_withView (view : Option String) (dirty : Bool) :
    (n.withView view dirty).viewKeys = n.viewKeys := rfl

@[simp] theorem remembered_withView (view : Option String) (dirty : Bool) :
    (n.withView view dirty).remembered key = n.remembered key := rfl

@[simp] theorem withView_withView (view view' : Option String) (dirty dirty' : Bool) :
    (n.withView view dirty).withView view' dirty' = n.withView view' dirty' := rfl

theorem remembered_eq_none_iff :
    n.remembered key = none ↔ n.catalog.defaultView? n.state.tab = some key := by
  simp [remembered]

/-- A view is shown after it is chosen, the default one as well. -/
theorem effectiveView_withView_remembered (dirty : Bool) :
    (n.withView (n.remembered key) dirty).effectiveView = some key := by
  by_cases hdefault : n.catalog.defaultView? n.state.tab = some key
  · simp [effectiveView, withView, remembered, hdefault]
  · simp [effectiveView, withView, remembered, hdefault]

theorem exists_changeView_eq (view : Option String) (hview : view ≠ some "") :
    ∃ dirty, n.changeView view = n.withView view dirty := by
  have hbind : view.bind nonEmpty = view := by
    cases view with
    | none => rfl
    | some key =>
      have hkey : key ≠ "" := fun h => hview (congrArg some h)
      rw [Option.bind_some, nonEmpty_eq, if_neg hkey]
  rw [changeView, hbind]
  exact ⟨_, rfl⟩

/-! ## Going on -/

/-- Where keys tell the views apart, the next view is the one behind that which is shown. -/
theorem nextView?_of_position (hdistinct : n.viewKeys.Nodup) (hi : n.viewKeys[i]? = some key)
    (hshown : n.effectiveView = some key) :
    n.nextView? = n.viewKeys[(i + 1) % n.viewKeys.length]? := by
  obtain ⟨hlt, hkey⟩ := List.getElem?_eq_some_iff.1 hi
  have hfirst : n.viewKeys.findIdx? (some · = n.effectiveView) = some i := by
    rw [hshown, List.findIdx?_eq_some_iff_getElem]
    refine ⟨hlt, by simp [hkey], fun j hj => ?_⟩
    have hne := List.pairwise_iff_getElem.1 (List.nodup_iff_pairwise_ne.1 hdistinct) j i
      (Nat.lt_trans hj hlt) hlt hj
    simp [← hkey, hne]
  unfold viewKeys at hfirst ⊢
  simp only [nextView?, hfirst]

/-- A call leads to the view behind the one that is shown and changes nothing else. -/
theorem exists_cycleView_eq (hdistinct : n.viewKeys.Nodup) (hnamed : "" ∉ n.viewKeys)
    (hi : n.viewKeys[i]? = some key) (hshown : n.effectiveView = some key) :
    ∃ next dirty, n.viewKeys[(i + 1) % n.viewKeys.length]? = some next ∧
      n.cycleView = n.withView (n.remembered next) dirty := by
  have hlt : i < n.viewKeys.length := (List.getElem?_eq_some_iff.1 hi).1
  have hmod : (i + 1) % n.viewKeys.length < n.viewKeys.length := Nat.mod_lt _ (by omega)
  have hnext := List.getElem?_eq_getElem hmod
  generalize n.viewKeys[(i + 1) % n.viewKeys.length] = next at hnext
  have hne : n.remembered next ≠ some "" := by
    intro h
    obtain rfl : next = "" := by
      by_cases hdefault : n.catalog.defaultView? n.state.tab = some next
      · simp [remembered, hdefault] at h
      · simpa [remembered, hdefault] using h
    exact hnamed (List.mem_of_getElem? hnext)
  obtain ⟨dirty, hchange⟩ := exists_changeView_eq (n := n) _ hne
  refine ⟨next, dirty, hnext, ?_⟩
  rw [← hchange, cycleView, nextView?_of_position hdistinct hi hshown, hnext, remembered]
  by_cases hdefault : n.catalog.defaultView? n.state.tab = some next
  · simp [hdefault]
  · simp [hdefault]

/-- Calls lead round the views, one view at a time. -/
theorem exists_cycle_eq (hdistinct : n.viewKeys.Nodup) (hnamed : "" ∉ n.viewKeys)
    (hi : n.viewKeys[i]? = some key) (hshown : n.effectiveView = some key) (k : Nat) :
    ∃ next dirty, n.viewKeys[(i + (k + 1)) % n.viewKeys.length]? = some next ∧
      n.run (List.replicate (k + 1) .cycleView) = n.withView (n.remembered next) dirty := by
  induction k with
  | zero => exact exists_cycleView_eq hdistinct hnamed hi hshown
  | succ k ih =>
    obtain ⟨last, dirty, hlast, hrun⟩ := ih
    -- Behind a call the navigator differs in the view alone, so the step lemma applies to it.
    obtain ⟨next, dirty', hnext, hcycle⟩ :=
      exists_cycleView_eq (n := n.withView (n.remembered last) dirty) hdistinct hnamed hlast
        (effectiveView_withView_remembered dirty)
    refine ⟨next, dirty', ?_, ?_⟩
    · simpa [Nat.mod_add_mod, Nat.add_assoc] using hnext
    · rw [run_replicate_succ, hrun, apply, hcycle, withView_withView, remembered_withView]

/-- Going on round `m` places leads from each of them to every other one. -/
theorem exists_add_mod_eq {j m : Nat} (hi : i < m) (hj : j < m) : ∃ k < m, (i + k) % m = j := by
  by_cases hle : i ≤ j
  · refine ⟨j - i, by omega, ?_⟩
    rw [show i + (j - i) = j by omega, Nat.mod_eq_of_lt hj]
  · refine ⟨j + m - i, by omega, ?_⟩
    rw [show i + (j + m - i) = j + m by omega, Nat.add_mod_right, Nat.mod_eq_of_lt hj]

/-- Going on from the view at position `i`, each call leads one view further, and the first view
follows the last, so that all views are come past.  After each call the address has the view that
the state has, which is none exactly if the default view is shown; nothing else is changed. -/
theorem cycle_through_views (hdistinct : n.viewKeys.Nodup) (hnamed : "" ∉ n.viewKeys)
    (hi : n.viewKeys[i]? = some key) (hshown : n.effectiveView = some key) :
    (∀ k, let m := n.run (List.replicate k .cycleView)
      m.effectiveView = n.viewKeys[(i + k) % n.viewKeys.length]? ∧
      (0 < k → m.address.view = m.state.view ∧
        (m.state.view = none ↔ m.effectiveView = n.catalog.defaultView? n.state.tab)) ∧
      m = { n with
        state := { n.state with view := m.state.view }
        address := { n.address with view := m.address.view }
        dirty := m.dirty }) ∧
    ∀ x ∈ n.viewKeys, ∃ k < n.viewKeys.length,
      (n.run (List.replicate k .cycleView)).effectiveView = some x := by
  have hlt : i < n.viewKeys.length := (List.getElem?_eq_some_iff.1 hi).1
  have hshows : ∀ k, (n.run (List.replicate k .cycleView)).effectiveView =
      n.viewKeys[(i + k) % n.viewKeys.length]? := by
    intro k
    cases k with
    | zero => rw [Nat.add_zero, Nat.mod_eq_of_lt hlt, hi]; exact hshown
    | succ k =>
      obtain ⟨next, dirty, hnext, hrun⟩ := exists_cycle_eq hdistinct hnamed hi hshown k
      rw [hrun, hnext, effectiveView_withView_remembered]
  constructor
  · intro k m
    refine ⟨hshows k, ?_⟩
    cases k with
    | zero => exact ⟨fun h => absurd h (Nat.lt_irrefl 0), rfl⟩
    | succ k =>
      obtain ⟨next, dirty, hnext, hrun⟩ := exists_cycle_eq hdistinct hnamed hi hshown k
      have hm : m = n.withView (n.remembered next) dirty := hrun
      have hview : m.effectiveView = some next := (hshows (k + 1)).trans hnext
      refine ⟨fun _ => ⟨by rw [hm]; rfl, ?_⟩, by rw [hm]; rfl⟩
      rw [hview, eq_comm (a := some next), ← remembered_eq_none_iff, hm]
      rfl
  · intro x hx
    obtain ⟨j, hj, rfl⟩ := List.getElem_of_mem hx
    obtain ⟨k, hk, hkj⟩ := exists_add_mod_eq hlt hj
    exact ⟨k, hk, by rw [hshows, hkj, List.getElem?_eq_getElem hj]⟩

/-- Three views, of which the second is the default one and the third is shown. -/
theorem cycle_through_views_statements :
    let view (key : String) (isDefault : Bool) : View := { key, label := key, isDefault }
    let views := [view "time" false, view "calls" true, view "io" true]
    let catalog := ({ mode := .live } : Catalog).withTab .pgs
      { name := "statements", entityId := "queryid", views }
    let n := start catalog { tab := .pgs, view := some "io" }
    (n.viewKeys.Nodup ∧ "" ∉ n.viewKeys ∧ n.viewKeys[2]? = some "io" ∧
        n.effectiveView = some "io") ∧
      (n.run (List.replicate 4 .cycleView)).effectiveView = some "time" ∧
      (n.run (List.replicate 5 .cycleView)).state.view = none := by
  intro view views catalog n
  have hdistinct : n.viewKeys.Nodup := by decide +kernel
  have hnamed : "" ∉ n.viewKeys := by decide +kernel
  have hi : n.viewKeys[2]? = some "io" := by decide +kernel
  have hshown : n.effectiveView = some "io" := by decide +kernel
  obtain ⟨hcycle, -⟩ := cycle_through_views hdistinct hnamed hi hshown
  obtain ⟨hfour, -⟩ := hcycle 4
  obtain ⟨hfive, hview, -⟩ := hcycle 5
  refine ⟨⟨hdistinct, hnamed, hi, hshown⟩, hfour.trans (by decide +kernel), ?_⟩
  exact (hview (by decide)).2.2 (hfive.trans (by decide +kernel))

end SnapshotViewer.Navigator
