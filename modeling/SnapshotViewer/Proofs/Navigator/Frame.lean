import SnapshotViewer.Navigator.Run

/-!
# What the parts of an operation leave alone

The operations of a navigator are put together from a few parts: writing into the address,
entering a tab, putting a column filter into force, choosing a row, stamping, and giving up a
choice.  For each part this module says what becomes of every field, so that no later proof has
to open it.

## Main statements

* The field equations of `persist`, `enterTab`, `await`, `applyFilter`, `stamp` and `receive`.
* `ask_of_hit`, `ask_of_miss` — a drill-down finds its target at once, or waits.
* `onSnapshot_of_idle`, `onSnapshot_of_pending` — the arrival of a snapshot.
* `run_induction` — what every operation of a run keeps.
* `Along` — what holds at every step of a run.
-/

namespace SnapshotViewer.Navigator

attribute [ext] Navigator

variable (n : Navigator)

/-! ## Writing into the address -/

section Persist
variable (change : Address → Address)

@[simp] theorem catalog_persist : (n.persist change).catalog = n.catalog := rfl
@[simp] theorem state_persist : (n.persist change).state = n.state := rfl
@[simp] theorem pending_persist : (n.persist change).pending = n.pending := rfl
@[simp] theorem flash_persist : (n.persist change).flash = n.flash := rfl
@[simp] theorem current_persist : (n.persist change).current = n.current := rfl
@[simp] theorem address_persist : (n.persist change).address = change n.address := rfl

end Persist

section SetTimestamp
variable (t : Option Int)

@[simp] theorem catalog_setTimestamp : (n.setTimestamp t).catalog = n.catalog := rfl
@[simp] theorem state_setTimestamp : (n.setTimestamp t).state = n.state := rfl
@[simp] theorem pending_setTimestamp : (n.setTimestamp t).pending = n.pending := rfl
@[simp] theorem flash_setTimestamp : (n.setTimestamp t).flash = n.flash := rfl
@[simp] theorem current_setTimestamp : (n.setTimestamp t).current = n.current := rfl
@[simp] theorem address_setTimestamp :
    (n.setTimestamp t).address = { n.address with timestamp := t.bind nonZero } := rfl

end SetTimestamp

/-! ## Entering a tab -/

section EnterTab
variable (tab : Collection)

@[simp] theorem catalog_enterTab : (n.enterTab tab).catalog = n.catalog := rfl
@[simp] theorem state_enterTab : (n.enterTab tab).state = { tab } := rfl
@[simp] theorem pending_enterTab : (n.enterTab tab).pending = n.pending := rfl
@[simp] theorem flash_enterTab : (n.enterTab tab).flash = none := rfl
@[simp] theorem current_enterTab : (n.enterTab tab).current = n.current := rfl
@[simp] theorem address_enterTab :
    (n.enterTab tab).address = { n.address with tab, view := none, filter := none } := rfl

end EnterTab

section Await
variable (p : Pending)

@[simp] theorem catalog_await : (n.await p).catalog = n.catalog := rfl
@[simp] theorem state_await : (n.await p).state = { tab := p.tab } := rfl
@[simp] theorem pending_await : (n.await p).pending = some p := rfl
@[simp] theorem flash_await : (n.await p).flash = none := rfl
@[simp] theorem current_await : (n.await p).current = n.current := rfl
@[simp] theorem address_await :
    (n.await p).address = { n.address with tab := p.tab, view := none, filter := none } := rfl

end Await

/-! ## Views and filters -/

section ApplyFilter
variable (f : Option ColumnFilter)

@[simp] theorem catalog_applyFilter : (n.applyFilter f).catalog = n.catalog := by
  cases f <;> rfl
@[simp] theorem tab_applyFilter : (n.applyFilter f).state.tab = n.state.tab := by
  cases f <;> rfl
@[simp] theorem selected_applyFilter :
    (n.applyFilter f).state.selected = n.state.selected := by cases f <;> rfl
@[simp] theorem detailOpen_applyFilter :
    (n.applyFilter f).state.detailOpen = n.state.detailOpen := by cases f <;> rfl
@[simp] theorem filterText_applyFilter :
    (n.applyFilter f).state.filterText = n.state.filterText := by cases f <;> rfl
@[simp] theorem pending_applyFilter : (n.applyFilter f).pending = n.pending := by
  cases f <;> rfl
@[simp] theorem flash_applyFilter : (n.applyFilter f).flash = n.flash := by cases f <;> rfl
@[simp] theorem current_applyFilter : (n.applyFilter f).current = n.current := by
  cases f <;> rfl

end ApplyFilter

/-! ## The arrival of a snapshot -/

section Arrival
variable (s : Snapshot)

@[simp] theorem catalog_stamp : (n.stamp s).catalog = n.catalog := by
  unfold stamp; split <;> rfl
@[simp] theorem state_stamp : (n.stamp s).state = n.state := by unfold stamp; split <;> rfl
@[simp] theorem pending_stamp : (n.stamp s).pending = n.pending := by
  unfold stamp; split <;> rfl
@[simp] theorem flash_stamp : (n.stamp s).flash = n.flash := by unfold stamp; split <;> rfl

/-- A choice survives, or the row and its details go together. -/
theorem checkLiveness_eq : n.checkLiveness s = n ∨ n.flash = none ∧ n.checkLiveness s =
    { n with state := { n.state with selected := none, detailOpen := false } } := by
  unfold checkLiveness
  split
  · next id hflash hselected =>
    split
    · exact .inl rfl
    · exact .inr ⟨hflash, rfl⟩
  · exact .inl rfl

/-- A snapshot is taken over, and with it possibly goes the chosen row. -/
theorem receive_eq : n.receive s = { n.stamp s with current := some s } ∨
    n.flash = none ∧ n.receive s =
      { n.stamp s with
        current := some s
        state := { n.state with selected := none, detailOpen := false } } := by
  rcases checkLiveness_eq { n.stamp s with current := some s } s with h | ⟨hflash, h⟩
  · exact .inl h
  · refine .inr ⟨by simpa using hflash, ?_⟩
    rw [receive, h]
    simp only [state_stamp]

/-- Without a chosen row there is no choice to give up. -/
theorem receive_of_unselected (h : n.state.selected = none) :
    n.receive s = { n.stamp s with current := some s } := by
  rw [receive, checkLiveness]
  simp [h]

@[simp] theorem catalog_receive : (n.receive s).catalog = n.catalog := by
  rcases n.receive_eq s with h | ⟨-, h⟩ <;> simp [h]
@[simp] theorem tab_receive : (n.receive s).state.tab = n.state.tab := by
  rcases n.receive_eq s with h | ⟨-, h⟩ <;> simp [h]
@[simp] theorem view_receive : (n.receive s).state.view = n.state.view := by
  rcases n.receive_eq s with h | ⟨-, h⟩ <;> simp [h]
@[simp] theorem filterText_receive :
    (n.receive s).state.filterText = n.state.filterText := by
  rcases n.receive_eq s with h | ⟨-, h⟩ <;> simp [h]
@[simp] theorem pending_receive : (n.receive s).pending = n.pending := by
  rcases n.receive_eq s with h | ⟨-, h⟩ <;> simp [h]
@[simp] theorem flash_receive : (n.receive s).flash = n.flash := by
  rcases n.receive_eq s with h | ⟨-, h⟩ <;> simp [h]
@[simp] theorem current_receive : (n.receive s).current = some s := by
  rcases n.receive_eq s with h | ⟨-, h⟩ <;> simp [h]
@[simp] theorem address_receive : (n.receive s).address = (n.stamp s).address := by
  rcases n.receive_eq s with h | ⟨-, h⟩ <;> simp [h]

end Arrival

/-! ## Looking for the target of a drill-down -/

section Resolve
variable {n} {p : Pending} {s : Snapshot} {r : Row}

theorem resolve_of_hit (lastChance : Bool) (hp : n.pending = some p) (hr : p.target? s = some r) :
    n.resolve s lastChance = (n.applyFilter p.filter).land r.id := by
  simp [resolve, hp, hr]

theorem resolve_of_miss (hp : n.pending = some p) (hr : p.target? s = none) :
    n.resolve s false = n.applyFilter p.filter := by
  simp [resolve, hp, hr]

theorem resolve_last_of_miss (hp : n.pending = some p) (hr : p.target? s = none) :
    n.resolve s true = { n.applyFilter p.filter with pending := none } := by
  simp [resolve, hp, hr]

theorem tab_resolve (n : Navigator) (s : Snapshot) (lastChance : Bool) :
    (n.resolve s lastChance).state.tab = n.state.tab := by
  unfold resolve
  split
  · rfl
  · split
    · exact tab_applyFilter n _
    · split <;> exact tab_applyFilter n _

theorem current_resolve (n : Navigator) (s : Snapshot) (lastChance : Bool) :
    (n.resolve s lastChance).current = n.current := by
  unfold resolve
  split
  · rfl
  · split
    · exact current_applyFilter n _
    · split <;> exact current_applyFilter n _

/-- A target in the snapshot that is shown is chosen at once. -/
theorem ask_of_hit (hr : n.current.bind p.target? = some r) :
    n.ask p = ((n.await p).applyFilter p.filter).land r.id := by
  obtain ⟨s, hs, hr⟩ := Option.bind_eq_some_iff.1 hr
  rw [ask, hs]
  exact resolve_of_hit false rfl hr

/-- Without a target the column filter of a drill-down is put into force all the same, unless
there is no snapshot to look at. -/
theorem ask_of_miss (hr : n.current.bind p.target? = none) :
    n.ask p = (n.await p).applyFilter (n.current.bind fun _ => p.filter) := by
  cases hs : n.current with
  | none => rw [ask, hs]; rfl
  | some s =>
    rw [ask, hs]
    exact resolve_of_miss rfl (by simpa [hs] using hr)

theorem onSnapshot_of_idle (hp : n.pending = none) : n.onSnapshot s = n.receive s := by
  simp [onSnapshot, resolveOnArrival, hp]

theorem onSnapshot_of_pending (hp : n.pending = some p) (ht : p.tab = n.state.tab) :
    n.onSnapshot s = (n.receive s).resolve s true := by
  simp [onSnapshot, resolveOnArrival, hp, ht]

/-- The arrival of a snapshot stays on the tab. -/
theorem tab_onSnapshot (n : Navigator) (s : Snapshot) :
    (n.onSnapshot s).state.tab = n.state.tab := by
  unfold onSnapshot resolveOnArrival
  split
  · exact tab_receive n s
  · split
    · rw [tab_resolve, tab_receive]
    · exact tab_receive n s

theorem current_onSnapshot (n : Navigator) (s : Snapshot) : (n.onSnapshot s).current = some s := by
  unfold onSnapshot resolveOnArrival
  split
  · exact current_receive n s
  · split
    · rw [current_resolve, current_receive]
    · exact current_receive n s

theorem current_ask (n : Navigator) (p : Pending) : (n.ask p).current = n.current := by
  unfold ask
  split
  · rw [current_resolve, current_await]
  · rfl

end Resolve

/-! ## Runs -/

theorem run_cons (op : NavigatorOp) (ops : List NavigatorOp) :
    n.run (op :: ops) = (n.apply op).run ops := rfl

@[simp] theorem run_nil : n.run [] = n := rfl

theorem run_append (xs ys : List NavigatorOp) : n.run (xs ++ ys) = (n.run xs).run ys :=
  List.foldl_append

theorem run_replicate_succ (k : Nat) (op : NavigatorOp) :
    n.run (List.replicate (k + 1) op) = (n.run (List.replicate k op)).apply op := by
  rw [List.replicate_succ', run_append]
  rfl

/-- What the start has and every operation of a run keeps holds at its end. -/
theorem run_induction {P : Navigator → Prop} {n : Navigator} (h : P n) (ops : List NavigatorOp)
    (step : ∀ m, ∀ op ∈ ops, P m → P (m.apply op)) : P (n.run ops) := by
  induction ops generalizing n with
  | nil => exact h
  | cons op ops ih =>
    refine ih (step n op List.mem_cons_self h) fun m x hx => ?_
    exact step m x (List.mem_cons_of_mem op hx)

/-- Every step of a run from `n` has a property of the state before it and of what happens. -/
def Along (P : Navigator → NavigatorOp → Prop) : Navigator → List NavigatorOp → Prop
  | _, [] => True
  | n, op :: ops => P n op ∧ Along P (n.apply op) ops

theorem along_append {P : Navigator → NavigatorOp → Prop} {n : Navigator}
    {xs ys : List NavigatorOp} :
    Along P n (xs ++ ys) ↔ Along P n xs ∧ Along P (n.run xs) ys := by
  induction xs generalizing n with
  | nil => simp [Along]
  | cons op xs ih => rw [List.cons_append, Along, Along, ih, run_cons, and_assoc]

end SnapshotViewer.Navigator
