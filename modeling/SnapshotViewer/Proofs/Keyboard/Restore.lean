import SnapshotViewer.Proofs.Keyboard.Operation
import SnapshotViewer.Proofs.Navigator.Mirror

/-!
# An address restores the screen

Whoever starts from the written address of somebody else sees the same tab, the same view and the
same filter text, and in history goes to the same moment.  The written form gives all that back
up to what it does not show, and starting drops a view that the tab does not have.  So the point
is that neither takes anything away: a view that keys have led to is always a view of the tab and
has a name, and the moment of a snapshot is a 64-bit integer other than zero, or is left out.

## Main definitions

* `Shown.Restorable` — nothing that is shown gets lost.
* `Write.Sound` — a write that keeps it so.

## Main statements

* `restorable_apply` — what keys and snapshots bring keeps it so.
* `address_restores_screen` — the screen that the written address leads to.
-/

namespace SnapshotViewer

/-- What is shown can be had again from the address: a view is a named view of the tab, and the
timestamp is a 64-bit integer. -/
structure Shown.Restorable (c : Catalog) (s : Shown) : Prop where
  view : ∀ key, s.view = some key → key ≠ "" ∧ c.hasView s.tab key = true
  inRange : s.address.InRange

/-- A write, made on a tab, that chooses no view but a named one of the tab and sets no timestamp
beyond 64 bits. -/
def Write.Sound (c : Catalog) (k : Collection) : Write → Prop
  | .view v => ∀ key, v = some key → key ≠ "" ∧ c.hasView k key = true
  | .timestamp t => ∀ x, t = some x → fitsInt64 x = true
  | _ => True

namespace Shown
variable {c : Catalog} {s : Shown} {w : Write}

theorem Restorable.write (h : s.Restorable c) (hw : w.Sound c s.tab) :
    (s.write w).Restorable c := by
  cases w with
  | tab k => exact ⟨by rintro key ⟨⟩, h.inRange⟩
  | view v => exact ⟨hw, h.inRange⟩
  | filterText text => exact ⟨h.view, h.inRange⟩
  | timestamp t => exact ⟨h.view, fun x hx => hw x (bind_nonZero_eq_some.1 hx).1⟩

/-- Writes that are sound on every tab. -/
theorem Restorable.writeAll (h : s.Restorable c) {ws : List Write}
    (hws : ∀ w ∈ ws, ∀ k, w.Sound c k) : (s.writeAll ws).Restorable c := by
  induction ws generalizing s with
  | nil => exact h
  | cons w ws ih =>
    refine ih (h.write (hws w List.mem_cons_self _)) fun v hv => ?_
    exact hws v (List.mem_cons_of_mem w hv)

end Shown

namespace Navigator
variable {n : Navigator} {x : NavigatorOp}

/-- The next view is a view of the tab. -/
theorem hasView_nextView? {key : String} (h : n.nextView? = some key) :
    n.catalog.hasView n.state.tab key = true := by
  have hmem : key ∈ (n.catalog.views n.state.tab).map (·.key) := by
    unfold nextView? at h
    dsimp only at h
    split at h
    · exact List.mem_of_getElem? h
    · exact List.mem_of_head? h
  simpa [Catalog.hasView] using hmem

/-- Going on to the next view never leads to a view that the tab does not have. -/
theorem restorable_cycleView (h : n.shown.Restorable n.catalog) :
    (n.shown.writeAll (n.writes .cycleView)).Restorable n.catalog := by
  unfold writes
  cases hnext : n.nextView? with
  | none => exact h
  | some next =>
    refine h.write (w := .view _) ?_
    intro key hkey
    by_cases hdefault : n.catalog.defaultView? n.state.tab = some next
    · simp [hdefault] at hkey
    · rw [if_neg hdefault, nonEmpty_eq] at hkey
      split at hkey
      · cases hkey
      · next hne =>
        obtain rfl : next = key := by simpa using hkey
        exact ⟨hne, hasView_nextView? hnext⟩

/-- All other operations that can be typed, and snapshots, choose no view but the default one. -/
theorem sound_of_mem_writes {w : Write}
    (hx : x.isTyped = true ∨ ∃ s, x = .onSnapshot s ∧ fitsInt64 s.timestamp = true)
    (hcycle : x ≠ .cycleView) (hw : w ∈ n.writes x) (c : Catalog) (k : Collection) :
    w.Sound c k := by
  have hreset : Write.Sound c k (.view none) := by rintro key ⟨⟩
  rcases hx with htyped | ⟨s, rfl, hfits⟩
  · cases x with
    | changeTab tab =>
      obtain ⟨-, rfl⟩ : tab ≠ n.state.tab ∧ w = .tab tab := by simpa [writes] using hw
      trivial
    | changeFilterText text =>
      obtain rfl : w = .filterText text := by simpa [writes] using hw
      trivial
    | drillDownSelected =>
      obtain ⟨tab, rfl⟩ | rfl := eq_of_mem_entries hw
      · trivial
      · exact hreset
    | cycleView => exact absurd rfl hcycle
    | changeView view => cases htyped
    | requestDrillDown d value source r => cases htyped
    | setTimestamp t => cases htyped
    | onSnapshot s => cases htyped
    | _ => exact absurd hw List.not_mem_nil
  · rcases List.mem_append.1 hw with hstamp | hfilter
    · rw [eq_of_mem_stamps hstamp]
      rintro t ⟨⟩
      exact hfits
    · rw [eq_of_mem_resets hfilter]
      exact hreset

/-- What keys and snapshots bring keeps everything that is shown restorable. -/
theorem restorable_apply (h : n.shown.Restorable n.catalog)
    (hx : x.isTyped = true ∨ ∃ s, x = .onSnapshot s ∧ fitsInt64 s.timestamp = true) :
    (n.apply x).shown.Restorable (n.apply x).catalog := by
  rw [shown_apply, catalog_apply]
  by_cases hcycle : x = .cycleView
  · subst hcycle
    exact restorable_cycleView h
  · exact h.writeAll fun w hw k => sound_of_mem_writes hx hcycle hw n.catalog k

/-- An address that was read leads to something that its own address leads to again. -/
theorem restorable_start (catalog : Catalog) {seed : Address} (h : seed.Tidy) :
    (start catalog seed).shown.Restorable catalog where
  view := by
    intro key hkey
    obtain ⟨hseed, hhas⟩ := Option.filter_eq_some_iff.1 hkey
    refine ⟨?_, hhas⟩
    rintro rfl
    exact h.view hseed
  inRange := by
    intro t ht
    simp only [shown, start] at ht
    split at ht
    · exact h.inRange t ht
    · cases ht

/-- The start from the written form of an address that mirrors what is shown. -/
theorem start_decode_encode {seed : Address} (hr : n.shown.Restorable n.catalog)
    (hm : n.shown.Mirrored seed) (hseed : seed.timestamp ≠ some 0) :
    let m := start n.catalog (Address.decode n.address.encode)
    m.state.tab = n.state.tab ∧ m.state.view = n.state.view ∧
      m.state.filterText = n.state.filterText ∧
      m.initialTimestamp =
        match n.catalog.mode with
        | .history => n.address.timestamp
        | .live => none := by
  have htab : n.address.tab = n.state.tab := hm.tab
  have hview : n.address.view = n.state.view := hm.view
  have hfilter : n.address.filter = nonEmpty n.state.filterText := hm.filter
  have hread : Address.decode n.address.encode = n.address.normal :=
    Address.decode_encode hr.inRange
  rw [hread]
  refine ⟨htab, ?_, ?_, ?_⟩
  · show (n.address.view.bind nonEmpty).filter (n.catalog.hasView n.address.tab ·) = n.state.view
    rw [hview, htab]
    cases hv : n.state.view with
    | none => rfl
    | some key =>
      obtain ⟨hne, hhas⟩ := hr.view key hv
      have hhas' : n.catalog.hasView n.state.tab key = true := hhas
      rw [Option.bind_some, nonEmpty_eq, if_neg hne, Option.filter_some, if_pos hhas']
  · show (n.address.filter.bind nonEmpty).getD "" = n.state.filterText
    rw [hfilter, nonEmpty_eq]
    split
    · next hempty => exact hempty.symm
    · next hne => rw [Option.bind_some, nonEmpty_eq, if_neg hne, Option.getD_some]
  · have hzero : n.address.timestamp.bind nonZero = n.address.timestamp := by
      cases ht : n.address.timestamp with
      | none => rfl
      | some t =>
        refine bind_nonZero_eq_some.2 ⟨rfl, ?_⟩
        rintro rfl
        exact hm.timestamp hseed ht
    show (match n.catalog.mode with
      | .history => n.address.timestamp.bind nonZero
      | .live => none) = _
    rw [hzero]

end Navigator

namespace Keyboard
open Navigator

/-- Whatever keys are pressed and snapshots arrive after a start from an address that was read,
the written address leads whoever starts from it to the same tab, view and filter text, and in
history to the same moment. -/
theorem address_restores_screen (catalog : Catalog) (text : String) (input : InputState)
    (ops : List KeyboardOp) (h : ∀ s, .snapshot s ∈ ops → fitsInt64 s.timestamp = true) :
    let n := (run (input, start catalog (Address.decode text)) ops).2
    let m := start catalog (Address.decode n.address.encode)
    m.state.tab = n.state.tab ∧ m.state.view = n.state.view ∧
      m.effectiveView = n.effectiveView ∧ m.state.filterText = n.state.filterText ∧
      m.initialTimestamp =
        match catalog.mode with
        | .history => n.address.timestamp
        | .live => none := by
  intro n m
  have hseed := Address.tidy_decode text
  obtain ⟨xs, hrun, hxs⟩ := nav_run (input, start catalog (Address.decode text)) ops
  have hn : n = (start catalog (Address.decode text)).run xs := hrun
  have hkept : n.catalog = catalog ∧ n.shown.Restorable n.catalog := by
    rw [hn]
    refine run_induction (P := fun k => k.catalog = catalog ∧ k.shown.Restorable k.catalog)
      ⟨rfl, restorable_start catalog hseed⟩ xs fun k x hx hk => ?_
    refine ⟨(catalog_apply k x).trans hk.1, restorable_apply hk.2 ?_⟩
    exact (hxs x hx).imp_right fun ⟨s, hs, hmem⟩ => ⟨s, hs, h s hmem⟩
  have hmirrored : n.shown.Mirrored (Address.decode text) := by
    rw [hn]
    exact stable_run (Shown.stable_mirrored _) (mirrored_start catalog _) xs
  obtain ⟨htab, hview, hfilter, htime⟩ :=
    start_decode_encode hkept.2 hmirrored hseed.timestamp
  rw [hkept.1] at htab hview hfilter htime
  refine ⟨htab, hview, ?_, hfilter, htime⟩
  unfold effectiveView
  rw [hview, htab, hkept.1]
  rfl

/-- A view and a filter that were chosen by keys, at the moment of a recorded snapshot. -/
theorem address_restores_screen_of_session :
    let views : List View := [⟨"generic", "Generic", [], true⟩, ⟨"waits", "Waits", [], false⟩]
    let catalog : Catalog :=
      { mode := .history, tabs := [(.pga, { name := "Sessions", entityId := "pid", views })] }
    let press (code : KeyCode) : KeyboardOp := .key 0 { code }
    let ops := [press (.char '2'), press (.char 'v'), press (.char '/'), press (.char 'ü'),
      press .enter, .snapshot { timestamp := 1010 }]
    let n := (run ({ isLive := false }, start catalog (Address.decode "tab=pgs&pos=1000")) ops).2
    let m := start catalog (Address.decode n.address.encode)
    (n.state.view = some "waits" ∧ n.state.filterText = "ü" ∧ n.address.timestamp = some 1010) ∧
      (∀ s, .snapshot s ∈ ops → fitsInt64 s.timestamp = true) ∧
      m.state.tab = n.state.tab ∧ m.state.view = n.state.view ∧
      m.effectiveView = n.effectiveView ∧ m.state.filterText = n.state.filterText ∧
      m.initialTimestamp = n.address.timestamp := by
  intro views catalog press ops n m
  have hfits : ∀ s, .snapshot s ∈ ops → fitsInt64 s.timestamp = true := by
    intro s hs
    obtain rfl : s = { timestamp := 1010 } := by simpa [ops, press] using hs
    decide
  exact ⟨by decide +kernel, hfits, address_restores_screen catalog _ _ ops hfits⟩

end Keyboard

end SnapshotViewer
