import SnapshotViewer.Proofs.Navigator.Decision
import SnapshotViewer.Proofs.Navigator.Writes

/-!
# Drill-downs that have to wait

A drill-down whose target is not there waits for the next snapshot.  Waiting costs nothing: if
that snapshot has the target, the navigator is in the very state that it would be in if the
snapshot had come first and the drill-down had found its target at once.  Meanwhile the tab of the
target is shown afresh, but for the column filter that the drill-down carries: with a snapshot to
look at it is in force from the start, not only from the moment the target is found.

## Main statements

* `ask_onSnapshot_comm` — a drill-down and the snapshot with its target can be exchanged.
* `request_onSnapshot_comm` — the same for a drill-down that is requested.
* `request_of_miss` — the state in which a drill-down waits, and for how long.
* `not_fresh_of_miss` — its column filter is in force before its target is found.
-/

namespace SnapshotViewer.Navigator

variable {n : Navigator} {p q : Pending} {s : Snapshot} {r : Row}

/-! ## What is shown while a drill-down waits, and when it has found its target -/

/-- Entering a tab leaves nothing of the old selection, so only the column filter is chosen. -/
theorem state_applyFilter_await (f : Option ColumnFilter) :
    ((n.await p).applyFilter f).state = { tab := p.tab, columnFilter := f } := by
  cases f <;> rfl

/-- The target is shown with the column filter of the drill-down, even if that filter has been in
force before. -/
theorem state_landed {f g : Option ColumnFilter} {k : Collection} {id : EntityId}
    (hstate : n.state = { tab := k, columnFilter := g }) (hg : g = none ∨ g = f) :
    ((n.applyFilter f).land id).state =
      { tab := k, selected := some id, detailOpen := true, columnFilter := f } := by
  cases f with
  | some f => simp [applyFilter, land, persist, hstate]
  | none =>
    obtain rfl : g = none := by simpa using hg
    simp [applyFilter, land, hstate]

theorem state_ask_of_hit (hr : n.current.bind p.target? = some r) :
    (n.ask p).state =
      { tab := p.tab, selected := some r.id, detailOpen := true, columnFilter := p.filter } := by
  rw [ask_of_hit hr]
  exact state_landed rfl (.inl rfl)

theorem state_ask_of_miss (hr : n.current.bind p.target? = none) :
    (n.ask p).state = { tab := p.tab, columnFilter := n.current.bind fun _ => p.filter } := by
  rw [ask_of_miss hr, state_applyFilter_await]

/-- The drill-down that has missed its target finds it in the next snapshot. -/
theorem ask_onSnapshot (hmiss : n.current.bind p.target? = none) (hhit : p.target? s = some r) :
    (n.ask p).onSnapshot s =
      ({ (n.ask p).stamp s with current := some s }.applyFilter p.filter).land r.id := by
  have hpending : (n.ask p).pending = some p := by rw [pending_ask, hmiss]; rfl
  have htab : p.tab = (n.ask p).state.tab := by rw [state_ask_of_miss hmiss]
  have hselected : (n.ask p).state.selected = none := by rw [state_ask_of_miss hmiss]
  rw [onSnapshot_of_pending hpending htab, resolve_of_hit true (by simpa using hpending) hhit,
    receive_of_unselected _ _ hselected]

/-! ## The address -/

/-- Writes that come down to stamping and then entering a tab. -/
structure Enters (n : Navigator) (s : Snapshot) (k : Collection) (ws : List Write) : Prop where
  shown : ∀ x : Shown, x.writeAll ws = (x.writeAll (n.stamps s)).write (.tab k)
  only : ∀ w ∈ ws, w ∈ n.stamps s ∨ w = .tab k ∨ w = .view none

theorem Enters.lasting {k : Collection} {ws : List Write} (h : n.Enters s k ws) :
    Write.Lasting ws := by
  intro x w hw
  rw [h.shown]
  obtain hstamp | rfl | rfl := h.only w hw
  · unfold stamps at hstamp ⊢
    cases hmode : n.catalog.mode with
    | live => simp [hmode] at hstamp
    | history =>
      obtain rfl : w = .timestamp (some s.timestamp) := by simpa [hmode] using hstamp
      rfl
  · rfl
  · rfl

/-- The tab that is entered brings its default view, so there is nothing to reset behind it … -/
theorem write_resets (x : Shown) (k : Collection) (f : Option ColumnFilter) :
    (x.write (.tab k)).writeAll (resets f) = x.write (.tab k) := by
  cases f <;> rfl

/-- … and what was reset before makes no difference. -/
theorem resets_write (x : Shown) (k : Collection) (f : Option ColumnFilter) :
    (x.writeAll (resets f)).write (.tab k) = x.write (.tab k) := by
  cases f <;> rfl

theorem stamps_write (n : Navigator) (s : Snapshot) (x : Shown) (k : Collection) :
    (x.write (.tab k)).writeAll (n.stamps s) = (x.writeAll (n.stamps s)).write (.tab k) := by
  unfold stamps
  cases n.catalog.mode <;> rfl

theorem enters_behind (n : Navigator) (s : Snapshot) (k : Collection)
    (f g : Option ColumnFilter) :
    n.Enters s k ((n.stamps s ++ resets g) ++ .tab k :: resets f) where
  shown x := by
    rw [Shown.writeAll_append, Shown.writeAll_append, Shown.writeAll_cons, write_resets,
      resets_write]
  only w hw := by
    rcases List.mem_append.1 hw with hw | hw
    · exact (List.mem_append.1 hw).imp_right fun h => .inr (eq_of_mem_resets h)
    · exact .inr ((List.mem_cons.1 hw).imp_right eq_of_mem_resets)

theorem enters_before (n : Navigator) (s : Snapshot) (k : Collection)
    (f g : Option ColumnFilter) :
    n.Enters s k ((.tab k :: resets f) ++ (n.stamps s ++ resets g)) where
  shown x := by
    rw [Shown.writeAll_append, Shown.writeAll_append, Shown.writeAll_cons, write_resets,
      stamps_write, write_resets]
  only w hw := by
    rcases List.mem_append.1 hw with hw | hw
    · exact .inr ((List.mem_cons.1 hw).imp_right eq_of_mem_resets)
    · exact (List.mem_append.1 hw).imp_right fun h => .inr (eq_of_mem_resets h)

theorem stamps_ask (n : Navigator) (p : Pending) (s : Snapshot) :
    (n.ask p).stamps s = n.stamps s := by
  rw [stamps, (wrote_ask n p).catalog]
  rfl

/-- What a snapshot and a drill-down behind it write. -/
theorem wrote_onSnapshot_ask (n : Navigator) (s : Snapshot) (p : Pending) :
    ∃ ws, n.Enters s p.tab ws ∧ Wrote n ws ((n.onSnapshot s).ask p) :=
  ⟨_, enters_behind n s p.tab _ _, (wrote_onSnapshot n s).trans (wrote_ask _ p)⟩

/-- What a drill-down and a snapshot behind it write. -/
theorem wrote_ask_onSnapshot (n : Navigator) (p : Pending) (s : Snapshot) :
    ∃ ws, n.Enters s p.tab ws ∧ Wrote n ws ((n.ask p).onSnapshot s) := by
  have h : Wrote n ((.tab p.tab :: resets _) ++ ((n.ask p).stamps s ++ resets _))
      ((n.ask p).onSnapshot s) := (wrote_ask n p).trans (wrote_onSnapshot (n.ask p) s)
  rw [stamps_ask] at h
  exact ⟨_, enters_before n s p.tab _ _, h⟩

/-! ## Drill-downs and snapshots can be exchanged -/

/-- A drill-down that would miss its target, and a snapshot that has it, lead to the same state in
either order.  Only the drill-down that waits knows when it was asked for. -/
theorem ask_onSnapshot_comm (hmiss : n.current.bind p.target? = none)
    (hhit : p.target? s = some r) (t : Option Int) :
    (n.onSnapshot s).ask { p with requestedAt := t } = (n.ask p).onSnapshot s := by
  have hhit' : (n.onSnapshot s).current.bind ({ p with requestedAt := t } : Pending).target? =
      some r := by
    rw [current_onSnapshot]
    exact hhit
  obtain ⟨ws, hws, hl⟩ := wrote_onSnapshot_ask n s { p with requestedAt := t }
  obtain ⟨xs, hxs, hr⟩ := wrote_ask_onSnapshot n p s
  have haddress : ((n.onSnapshot s).ask { p with requestedAt := t }).address =
      ((n.ask p).onSnapshot s).address := by
    rw [hl.address, hr.address, hws.shown, hxs.shown]
  ext1
  · rw [hl.catalog, hr.catalog]
  · have hwaiting : ({ (n.ask p).stamp s with current := some s } : Navigator).state =
        { tab := p.tab, columnFilter := n.current.bind fun _ => p.filter } := by
      rw [← state_ask_of_miss hmiss]
      exact state_stamp _ s
    rw [state_ask_of_hit hhit', ask_onSnapshot hmiss hhit, state_landed hwaiting]
    cases n.current with
    | none => exact .inl rfl
    | some old => exact .inr rfl
  · rw [ask_of_hit hhit', ask_onSnapshot hmiss hhit]
    rfl
  · rw [ask_of_hit hhit', ask_onSnapshot hmiss hhit]
    rfl
  · rw [current_ask, current_onSnapshot, current_onSnapshot]
  · exact haddress
  · rw [hl.dirty_eq hws.lasting, hr.dirty_eq hxs.lasting, haddress]
  · rw [hl.initialTimestamp, hr.initialTimestamp]

/-! ## Drill-downs that are requested -/

section Request
variable {d : DrillDown} {k : Collection} {value : Scalar} {source : Collection} {row : Row}

theorem target?_of_no_fit (h : ∀ old, n.current = some old → ∀ x ∈ old.rows p.tab, p.fits x = false) :
    n.current.bind p.target? = none := by
  cases hs : n.current with
  | none => rfl
  | some old =>
    rw [Option.bind_some, Pending.target?, List.find?_eq_none]
    intro x hx
    simp [h old hs x hx]

theorem requestDrillDown_of_tab (hd : d.targetTab? = some k) :
    n.requestDrillDown d value source row = (n.ask (n.pendingFor d k value source row), true) := by
  rw [requestDrillDown, hd]

/-- Requesting a drill-down that misses its target, and then showing a snapshot that has it, leads
to the very state that showing the snapshot first and then requesting the drill-down leads to, and
nothing waits any more. -/
theorem request_onSnapshot_comm (hd : d.targetTab? = some k)
    (hmiss : ∀ old, n.current = some old → ∀ x ∈ old.rows k,
      (n.pendingFor d k value source row).fits x = false)
    (hhit : ∃ x ∈ s.rows k, (n.pendingFor d k value source row).fits x = true) :
    (n.onSnapshot s).requestDrillDown d value source row =
        ((n.requestDrillDown d value source row).1.onSnapshot s, true) ∧
      (n.requestDrillDown d value source row).2 = true ∧
      ((n.requestDrillDown d value source row).1.onSnapshot s).pending = none := by
  have hnone := target?_of_no_fit (p := n.pendingFor d k value source row) hmiss
  obtain ⟨r, hr⟩ : ∃ r, (n.pendingFor d k value source row).target? s = some r :=
    Option.isSome_iff_exists.1 (List.find?_isSome.2 hhit)
  -- The drill-down is the same from either state but for the moment at which it is asked for.
  have hpending : (n.onSnapshot s).pendingFor d k value source row =
      { n.pendingFor d k value source row with
        requestedAt := (n.onSnapshot s).current.map (·.timestamp) } := by
    unfold pendingFor
    rw [(wrote_onSnapshot n s).catalog]
  rw [requestDrillDown_of_tab hd, requestDrillDown_of_tab hd, hpending,
    ask_onSnapshot_comm hnone hr]
  refine ⟨rfl, rfl, ?_⟩
  rw [ask_onSnapshot hnone hr]
  rfl

/-- From a table to its second index, which only the next snapshot has, in history and with a view
to reset. -/
theorem request_onSnapshot_comm_index :
    let orders : Row := ⟨.int 10, [("display_name", .text "orders")]⟩
    let indexes : List Row := [⟨.int 100, [("relid", .int 20)]⟩, ⟨.int 101, [("relid", .int 10)]⟩]
    let old : Snapshot := { timestamp := 50, tables := { pgt := [orders] } }
    let s : Snapshot := { timestamp := 60, tables := { pgt := [orders], pgi := indexes } }
    let d : DrillDown :=
      { target := "pgi", via := "relid", targetField := some "relid",
        filterVia := some "display_name", filterTarget := some "display_table" }
    let n := (start { mode := .history } { tab := .pgt }).run
      [.changeView (some "io"), .onSnapshot old]
    d.targetTab? = some .pgi ∧
      (∀ x, n.current = some x → ∀ y ∈ x.rows .pgi,
        (n.pendingFor d .pgi (.int 10) .pgt orders).fits y = false) ∧
      (∃ y ∈ s.rows .pgi, (n.pendingFor d .pgi (.int 10) .pgt orders).fits y = true) ∧
      (n.onSnapshot s).requestDrillDown d (.int 10) .pgt orders =
          ((n.requestDrillDown d (.int 10) .pgt orders).1.onSnapshot s, true) ∧
        (n.requestDrillDown d (.int 10) .pgt orders).2 = true ∧
        ((n.requestDrillDown d (.int 10) .pgt orders).1.onSnapshot s).pending = none := by
  intro orders indexes old s d n
  have hd : d.targetTab? = some .pgi := by decide +kernel
  have hmiss : ∀ x, n.current = some x → ∀ y ∈ x.rows .pgi,
      (n.pendingFor d .pgi (.int 10) .pgt orders).fits y = false := by
    intro x hx y hy
    obtain rfl : old = x := by simpa [n, run, apply, current_onSnapshot] using hx
    cases hy
  have hhit : ∃ y ∈ s.rows .pgi, (n.pendingFor d .pgi (.int 10) .pgt orders).fits y = true := by
    decide +kernel
  exact ⟨hd, hmiss, hhit, request_onSnapshot_comm hd hmiss hhit⟩

/-! ## What waiting looks like -/

/-- What does not concern the drill-down that waits leaves it waiting. -/
theorem pending_of_undisturbed {op : NavigatorOp} (h : n.disturbs op = false) :
    (n.apply op).pending = n.pending := by
  have hs := step_apply n op
  generalize n.apply op = m at hs
  cases hs with
  | quiet _ hm => exact hm.pending_eq
  | leave ht => simp [disturbs, ht] at h
  | ask hp => simp [disturbs_of_asked hp] at h
  | arrive s => cases h

theorem pending_run_of_undisturbed {ops : List NavigatorOp} (h : n.Undisturbed ops) :
    (n.run ops).pending = n.pending := by
  induction ops generalizing n with
  | nil => rfl
  | cons op ops ih => rw [run_cons, ih h.2, pending_of_undisturbed h.1]

/-- A drill-down that misses its target shows the tab of the target afresh, except that with a
snapshot to look at its column filter is in force already.  Nothing is marked.  It waits until it
is disturbed, and if that is by a snapshot then the snapshot decides it: nothing waits any more,
and the target is marked if the snapshot has it. -/
theorem request_of_miss (hd : d.targetTab? = some k)
    (hmiss : ∀ old, n.current = some old → ∀ x ∈ old.rows k,
      (n.pendingFor d k value source row).fits x = false) :
    let p := n.pendingFor d k value source row
    let m := (n.requestDrillDown d value source row).1
    m.state = { tab := k, columnFilter := n.current.bind fun _ => carriedFilter d source row } ∧
      m.flash = none ∧
      ∀ ops, m.Undisturbed ops → (m.run ops).pending = some p ∧
        ∀ s, ((m.run ops).onSnapshot s).pending = none ∧
          ((m.run ops).onSnapshot s).flash = (p.target? s).map (·.id) := by
  intro p m
  have hm : m = n.ask p := congrArg Prod.fst (requestDrillDown_of_tab hd)
  have hnone : n.current.bind p.target? = none := target?_of_no_fit hmiss
  have hcoherent : m.Coherent := hm ▸ coherent_ask rfl
  refine ⟨?_, ?_, fun ops hops => ?_⟩
  · rw [hm, state_ask_of_miss hnone]
    rfl
  · rw [hm, flash_ask, hnone]
    rfl
  · have hpending : (m.run ops).pending = some p := by
      rw [pending_run_of_undisturbed hops, hm, pending_ask, hnone]
      rfl
    have hc : (m.run ops).Coherent :=
      run_induction hcoherent ops fun x op _ hx => hx.step (step_apply x op)
    refine ⟨hpending, fun s => ⟨pending_onSnapshot hc s, ?_⟩⟩
    rw [flash_onSnapshot hc, hpending, hc.flash_eq_none hpending, Option.or_none]
    rfl

/-- From a table to its index, which the snapshot that is shown lacks. -/
theorem request_of_miss_index :
    let orders : Row := ⟨.int 10, [("display_name", .text "public.orders")]⟩
    let users : Row := ⟨.int 200, [("display_table", .text "public.users"), ("relid", .int 20)]⟩
    let shown : Snapshot := { timestamp := 50, tables := { pgt := [orders], pgi := [users] } }
    let d : DrillDown :=
      { target := "pgi", via := "relid", targetField := some "relid",
        filterVia := some "display_name", filterTarget := some "display_table" }
    let n := (start { mode := .live } { tab := .pgt }).onSnapshot shown
    let p := n.pendingFor d .pgi (.int 10) .pgt orders
    let m := (n.requestDrillDown d (.int 10) .pgt orders).1
    d.targetTab? = some .pgi ∧
      (∀ old, n.current = some old → ∀ x ∈ old.rows .pgi, p.fits x = false) ∧
      m.state = { tab := .pgi, columnFilter := n.current.bind fun _ => carriedFilter d .pgt orders } ∧
      m.flash = none ∧
      ∀ ops, m.Undisturbed ops → (m.run ops).pending = some p ∧
        ∀ s, ((m.run ops).onSnapshot s).pending = none ∧
          ((m.run ops).onSnapshot s).flash = (p.target? s).map (·.id) := by
  intro orders users shown d n p m
  have hd : d.targetTab? = some .pgi := by decide +kernel
  have hmiss : ∀ old, n.current = some old → ∀ x ∈ old.rows .pgi, p.fits x = false := by
    intro old hold
    obtain rfl : shown = old := by simpa [n, current_onSnapshot] using hold
    decide +kernel
  exact ⟨hd, hmiss, request_of_miss hd hmiss⟩

/-- So it is not true that the tab of a target which is missed is shown afresh altogether. -/
theorem not_fresh_of_miss : ¬ ∀ (n : Navigator) (d : DrillDown) (k : Collection) (value : Scalar)
    (source : Collection) (row : Row), d.targetTab? = some k →
    (∀ old, n.current = some old → ∀ x ∈ old.rows k,
      (n.pendingFor d k value source row).fits x = false) →
    (n.requestDrillDown d value source row).1.state = { tab := k } := by
  intro h
  let orders : Row := ⟨.int 10, [("display_name", .text "public.orders")]⟩
  let users : Row := ⟨.int 200, [("display_table", .text "public.users"), ("relid", .int 20)]⟩
  let shown : Snapshot := { timestamp := 50, tables := { pgt := [orders], pgi := [users] } }
  let d : DrillDown :=
    { target := "pgi", via := "relid", targetField := some "relid",
      filterVia := some "display_name", filterTarget := some "display_table" }
  let n := (start { mode := .live } { tab := .pgt }).onSnapshot shown
  have hmiss : ∀ old, n.current = some old → ∀ x ∈ old.rows .pgi,
      (n.pendingFor d .pgi (.int 10) .pgt orders).fits x = false := by
    intro old hold
    obtain rfl : shown = old := by simpa [n, current_onSnapshot] using hold
    decide +kernel
  have hstate := h n d .pgi (.int 10) .pgt orders (by decide +kernel) hmiss
  exact absurd (congrArg Selection.columnFilter hstate) (by decide +kernel)

end Request

end SnapshotViewer.Navigator
