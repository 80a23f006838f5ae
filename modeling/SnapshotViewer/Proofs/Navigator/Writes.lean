import SnapshotViewer.Proofs.Navigator.Step

/-!
# What operations write

The tab, the view and the filter text are kept twice: in the selection, where the screen shows
them, and in the address, which is handed out.  Whatever an operation does, it touches the two
copies by four kinds of writes only: entering a tab, choosing a view, changing the filter text,
and setting the timestamp.  `writes` lists them for every operation.

An address that a write has changed is noted as such, write by write.  Within one operation no
write undoes another, so the note is also right for the operation as a whole (`dirty_apply`).

## Main definitions

* `Shown`, `Navigator.shown` — both copies.
* `Write`, `Shown.write` — what can be done to them.
* `Navigator.writes` — what an operation does to them.
* `Wrote` — everything that some writes change in them, and around them.
* `Write.Lasting` — writes of which none undoes another.

## Main statements

* `wrote_apply` — an operation does its writes and no others.
* `shown_apply`, `catalog_apply` — the same for the two copies and for the catalog alone.
* `dirty_apply` — a change of the address by an operation is noted, and nothing else is.
-/

namespace SnapshotViewer

/-- What an address is about, as the screen shows it and as the address has it. -/
structure Shown where
  tab : Collection
  view : Option String
  filterText : String
  address : Address

/-- A change of what an address is about. -/
inductive Write where
  | tab (tab : Collection)
  | view (view : Option String)
  | filterText (text : String)
  | timestamp (timestamp : Option Int)

/-- An address after a change. -/
def Write.revise : Write → Address → Address
  | .tab k, a => { a with tab := k, view := none, filter := none }
  | .view v, a => { a with view := v }
  | .filterText text, a => { a with filter := nonEmpty text }
  | .timestamp t, a => { a with timestamp := t.bind nonZero }

/-- Whether some of several changes, made one after the other, makes a difference to an
address. -/
def Write.alters (a : Address) : List Write → Bool
  | [] => false
  | w :: ws => w.revise a ≠ a || alters (w.revise a) ws

namespace Shown

/-- Both copies after a change; a tab is entered with its default view and without a filter. -/
def write (s : Shown) : Write → Shown
  | .tab tab =>
    { tab
      view := none
      filterText := ""
      address := { s.address with tab, view := none, filter := none } }
  | .view view => { s with view, address := { s.address with view } }
  | .filterText text =>
    { s with filterText := text, address := { s.address with filter := nonEmpty text } }
  | .timestamp t => { s with address := { s.address with timestamp := t.bind nonZero } }

/-- Both copies after several changes. -/
def writeAll (s : Shown) (ws : List Write) : Shown := ws.foldl write s

@[simp] theorem writeAll_nil (s : Shown) : s.writeAll [] = s := rfl

@[simp] theorem writeAll_cons (s : Shown) (w : Write) (ws : List Write) :
    s.writeAll (w :: ws) = (s.write w).writeAll ws := rfl

theorem writeAll_append (s : Shown) (xs ys : List Write) :
    s.writeAll (xs ++ ys) = (s.writeAll xs).writeAll ys := List.foldl_append

@[simp] theorem address_write (s : Shown) (w : Write) :
    (s.write w).address = w.revise s.address := by
  cases w <;> rfl

end Shown

namespace Write

@[simp] theorem revise_revise (w : Write) (a : Address) :
    w.revise (w.revise a) = w.revise a := by
  cases w <;> rfl

theorem alters_append (s : Shown) (xs ys : List Write) :
    alters s.address (xs ++ ys) = (alters s.address xs || alters (s.writeAll xs).address ys) := by
  induction xs generalizing s with
  | nil => rfl
  | cons w xs ih =>
    rw [List.cons_append, alters, alters, ← Shown.address_write, ih, Bool.or_assoc]
    rfl

/-- Writes that make no difference leave the address as it is. -/
theorem address_of_unaltered {s : Shown} {ws : List Write} (h : alters s.address ws = false) :
    (s.writeAll ws).address = s.address := by
  induction ws generalizing s with
  | nil => rfl
  | cons w ws ih =>
    rw [alters, Bool.or_eq_false_iff] at h
    have hw : w.revise s.address = s.address := by simpa using h.1
    rw [Shown.writeAll_cons, ih (by simpa using h.2), Shown.address_write, hw]

/-- Writes that an address agrees with make no difference to it. -/
theorem alters_eq_false {a : Address} {ws : List Write} (h : ∀ w ∈ ws, w.revise a = a) :
    alters a ws = false := by
  induction ws with
  | nil => rfl
  | cons w ws ih =>
    have hw : w.revise a = a := h w List.mem_cons_self
    rw [alters, hw, ih fun x hx => h x (List.mem_cons_of_mem w hx)]
    simp

/-- Writes of which none undoes another: the resulting address agrees with each of them. -/
def Lasting (ws : List Write) : Prop :=
  ∀ s : Shown, ∀ w ∈ ws, w.revise (s.writeAll ws).address = (s.writeAll ws).address

theorem lasting_nil : Lasting [] := fun _ _ h => absurd h List.not_mem_nil

theorem lasting_one (w : Write) : Lasting [w] := by
  intro s v hv
  obtain rfl := List.mem_singleton.1 hv
  simp

/-- Lasting writes have made a difference exactly if the result is another address. -/
theorem alters_eq {ws : List Write} (h : Lasting ws) (s : Shown) :
    alters s.address ws = decide ((s.writeAll ws).address ≠ s.address) := by
  by_cases hsame : (s.writeAll ws).address = s.address
  · have hagree := h s
    rw [hsame] at hagree
    rw [alters_eq_false hagree]
    simp [hsame]
  · cases ha : alters s.address ws with
    | false => exact absurd (address_of_unaltered ha) hsame
    | true => simp [hsame]

end Write

namespace Navigator

/-- What the address of a navigator is about. -/
def shown (n : Navigator) : Shown := ⟨n.state.tab, n.state.view, n.state.filterText, n.address⟩

/-- The default view, which the column filter of a drill-down brings with it. -/
def resets : Option ColumnFilter → List Write
  | some _ => [.view none]
  | none => []

/-- What the start of a drill-down writes. -/
def entries (n : Navigator) : Option Pending → List Write
  | some p => .tab p.tab :: resets (n.current.bind fun _ => p.filter)
  | none => []

/-- What the moment of a snapshot writes: in history it goes into the address. -/
def stamps (n : Navigator) (s : Snapshot) : List Write :=
  match n.catalog.mode with
  | .history => [.timestamp (some s.timestamp)]
  | .live => []

/-- What an operation writes, in order. -/
def writes (n : Navigator) : NavigatorOp → List Write
  | .changeTab tab => if tab = n.state.tab then [] else [.tab tab]
  | .changeView view => [.view (view.bind nonEmpty)]
  | .cycleView =>
    match n.nextView? with
    | none => []
    | some next =>
      [.view (if n.catalog.defaultView? n.state.tab = some next then none else nonEmpty next)]
  | .changeFilterText text => [.filterText text]
  | .setTimestamp t => [.timestamp t]
  | .requestDrillDown d value source r =>
    n.entries (n.asked? (.requestDrillDown d value source r))
  | .drillDownSelected => n.entries (n.asked? .drillDownSelected)
  | .onSnapshot s =>
    n.stamps s ++ resets ((n.pending.filter (·.tab = n.state.tab)).bind (·.filter))
  | _ => []

theorem eq_of_mem_resets {f : Option ColumnFilter} {w : Write} (h : w ∈ resets f) :
    w = .view none := by
  cases f with
  | none => exact absurd h List.not_mem_nil
  | some f => exact List.mem_singleton.1 h

theorem eq_of_mem_entries {n : Navigator} {o : Option Pending} {w : Write}
    (h : w ∈ n.entries o) : (∃ k, w = .tab k) ∨ w = .view none := by
  cases o with
  | none => exact absurd h List.not_mem_nil
  | some p => exact (List.mem_cons.1 h).imp (⟨p.tab, ·⟩) eq_of_mem_resets

theorem eq_of_mem_stamps {n : Navigator} {s : Snapshot} {w : Write} (h : w ∈ n.stamps s) :
    w = .timestamp (some s.timestamp) := by
  unfold stamps at h
  cases hmode : n.catalog.mode with
  | history => simpa [hmode] using h
  | live => simp [hmode] at h

/-- Everything that the writes `ws` change from `n` to `m`, and that each of them which makes a
difference to the address has been noted.  The choice of a row, the column filter and the
drill-down that waits are left open. -/
structure Wrote (n : Navigator) (ws : List Write) (m : Navigator) : Prop where
  catalog : m.catalog = n.catalog
  initialTimestamp : m.initialTimestamp = n.initialTimestamp
  shown : m.shown = n.shown.writeAll ws
  dirty : m.dirty = (n.dirty || Write.alters n.address ws)

namespace Wrote
variable {n m k : Navigator} {w : Write} {ws xs : List Write}

/-- A change that no address is about. -/
theorem none (hc : m.catalog = n.catalog) (ht : m.initialTimestamp = n.initialTimestamp)
    (hs : m.shown = n.shown) (hd : m.dirty = n.dirty) : Wrote n [] m :=
  ⟨hc, ht, hs, by rw [hd, Write.alters, Bool.or_false]⟩

/-- A single write, noted by comparing the addresses before and behind it. -/
theorem one (hc : m.catalog = n.catalog) (ht : m.initialTimestamp = n.initialTimestamp)
    (hs : m.shown = n.shown.write w) (hd : m.dirty = (n.dirty || decide (m.address ≠ n.address))) :
    Wrote n [w] m := by
  refine ⟨hc, ht, hs, ?_⟩
  have ha : m.address = w.revise n.address := by
    calc m.address = m.shown.address := rfl
      _ = w.revise n.address := by rw [hs, Shown.address_write]; rfl
  rw [hd, ha, Write.alters, Write.alters, Bool.or_false]

theorem address (h : Wrote n ws m) : m.address = (n.shown.writeAll ws).address :=
  congrArg Shown.address h.shown

theorem trans (h : Wrote n ws m) (h' : Wrote m xs k) : Wrote n (ws ++ xs) k where
  catalog := h'.catalog.trans h.catalog
  initialTimestamp := h'.initialTimestamp.trans h.initialTimestamp
  shown := by rw [h'.shown, h.shown, Shown.writeAll_append]
  dirty := by
    have happend : Write.alters n.address (ws ++ xs) = _ := Write.alters_append n.shown ws xs
    rw [h'.dirty, h.dirty, h.address, happend, Bool.or_assoc]
    rfl

/-- Lasting writes are noted exactly if the result is another address. -/
theorem dirty_eq (h : Wrote n ws m) (hws : Write.Lasting ws) :
    m.dirty = (n.dirty || decide (m.address ≠ n.address)) := by
  rw [h.dirty, h.address]
  exact congrArg (n.dirty || ·) (Write.alters_eq hws n.shown)

end Wrote

/-! ## The parts of an operation -/

variable (n : Navigator)

theorem wrote_enterTab (tab : Collection) : Wrote n [.tab tab] (n.enterTab tab) :=
  .one rfl rfl rfl rfl

theorem wrote_changeView (view : Option String) :
    Wrote n [.view (view.bind nonEmpty)] (n.changeView view) := .one rfl rfl rfl rfl

theorem wrote_changeFilterText (text : String) :
    Wrote n [.filterText text] (n.changeFilterText text) := .one rfl rfl rfl rfl

theorem wrote_setTimestamp (t : Option Int) : Wrote n [.timestamp t] (n.setTimestamp t) :=
  .one rfl rfl rfl rfl

theorem wrote_applyFilter (f : Option ColumnFilter) :
    Wrote n (resets f) (n.applyFilter f) := by
  cases f with
  | none => exact .none rfl rfl rfl rfl
  | some f => exact .one rfl rfl rfl rfl

theorem wrote_stamp (s : Snapshot) : Wrote n (n.stamps s) (n.stamp s) := by
  unfold stamps stamp
  cases n.catalog.mode with
  | live => exact .none rfl rfl rfl rfl
  | history => exact wrote_setTimestamp n (some s.timestamp)

theorem wrote_receive (s : Snapshot) : Wrote n (n.stamps s) (n.receive s) := by
  have hstamp := wrote_stamp n s
  rcases n.receive_eq s with h | ⟨-, h⟩
  · rw [h]
    exact { hstamp with }
  · rw [h, ← state_stamp n s]
    exact { hstamp with }

/-- Looking for the target of a drill-down writes the same whether it is there or not. -/
theorem wrote_resolve {n : Navigator} {p : Pending} (hp : n.pending = some p) (s : Snapshot)
    (lastChance : Bool) : Wrote n (resets p.filter) (n.resolve s lastChance) := by
  have hfilter := wrote_applyFilter n p.filter
  cases hr : p.target? s with
  | some r =>
    rw [resolve_of_hit lastChance hp hr]
    exact { hfilter with }
  | none =>
    cases lastChance with
    | false => rwa [resolve_of_miss hp hr]
    | true =>
      rw [resolve_last_of_miss hp hr]
      exact { hfilter with }

theorem wrote_ask (p : Pending) : Wrote n (n.entries (some p)) (n.ask p) := by
  have hawait : Wrote n [.tab p.tab] (n.await p) := { wrote_enterTab n p.tab with }
  unfold ask entries
  cases n.current with
  | none => exact hawait
  | some s => exact hawait.trans (wrote_resolve (pending_await n p) s false)

theorem wrote_onSnapshot (s : Snapshot) :
    Wrote n (n.writes (.onSnapshot s)) (n.onSnapshot s) := by
  have hreceive := wrote_receive n s
  unfold onSnapshot resolveOnArrival writes
  rw [pending_receive, tab_receive]
  cases hp : n.pending with
  | none => exact hreceive.trans (.none rfl rfl rfl rfl)
  | some p =>
    by_cases ht : p.tab = n.state.tab
    · simp only [ht, Option.filter_some, decide_true, if_true, Option.bind_some]
      exact hreceive.trans (wrote_resolve (by rw [pending_receive, hp]) s true)
    · simp only [ht, Option.filter_some, decide_false, if_false, Option.bind_none,
        Bool.false_eq_true]
      exact hreceive.trans (.none rfl rfl rfl rfl)

/-! ## Operations -/

theorem wrote_selectAt (position : Nat) : Wrote n [] (n.selectAt position) := by
  unfold selectAt
  cases n.visibleRows[position]? with
  | none => exact .none rfl rfl rfl rfl
  | some r => exact .none rfl rfl rfl rfl

theorem wrote_openDetail : Wrote n [] n.openDetail := by
  unfold openDetail
  split
  · exact .none rfl rfl rfl rfl
  · exact .none rfl rfl rfl rfl

theorem wrote_toggleDetail : Wrote n [] n.toggleDetail := by
  unfold toggleDetail
  split
  · exact .none rfl rfl rfl rfl
  · exact wrote_openDetail n

theorem wrote_changeTab (tab : Collection) :
    Wrote n (n.writes (.changeTab tab)) (n.changeTab tab) := by
  show Wrote n (if tab = n.state.tab then [] else [.tab tab]) (n.changeTab tab)
  unfold changeTab
  split
  · exact .none rfl rfl rfl rfl
  · exact .one rfl rfl rfl rfl

theorem wrote_cycleView : Wrote n (n.writes .cycleView) n.cycleView := by
  unfold cycleView writes
  cases n.nextView? with
  | none => exact .none rfl rfl rfl rfl
  | some next =>
    by_cases hdefault : n.catalog.defaultView? n.state.tab = some next
    · simp only [hdefault, if_true]
      exact wrote_changeView n none
    · simp only [hdefault, if_false]
      exact wrote_changeView n (some next)

/-- Starting a drill-down, or nothing. -/
theorem wrote_request {n : Navigator} {o : Option Pending} {m : Navigator × Bool}
    (hm : m = match o with | some p => (n.ask p, true) | none => (n, false)) :
    Wrote n (n.entries o) m.1 := by
  subst hm
  cases o with
  | none => exact .none rfl rfl rfl rfl
  | some p => exact wrote_ask n p

/-- Handing out takes the note away and leaves all else. -/
theorem takeUpdate_eq :
    n.takeUpdate = ({ n with dirty := false }, if n.dirty then some n.address else none) := by
  unfold takeUpdate
  cases h : n.dirty with
  | true => rfl
  | false =>
    obtain ⟨catalog, state, pending, flash, current, address, dirty, initialTimestamp⟩ := n
    obtain rfl : dirty = false := h
    rfl

/-- Without a change there is nothing to hand out. -/
theorem takeUpdate_of_clean {n : Navigator} (h : n.dirty = false) : n.takeUpdate = (n, none) := by
  unfold takeUpdate
  rw [h]
  rfl

variable {op : NavigatorOp}

/-- An operation does its writes and no others; handing the address out is none of them. -/
theorem wrote_apply (h : op ≠ .takeUpdate) : Wrote n (n.writes op) (n.apply op) := by
  cases op with
  | changeTab tab => exact wrote_changeTab n tab
  | selectRow id => exact .none rfl rfl rfl rfl
  | openDetail => exact wrote_openDetail n
  | closeDetail => exact .none rfl rfl rfl rfl
  | toggleDetail => exact wrote_toggleDetail n
  | changeView view => exact wrote_changeView n view
  | cycleView => exact wrote_cycleView n
  | changeFilterText text => exact wrote_changeFilterText n text
  | setColumnFilter f => exact .none rfl rfl rfl rfl
  | clearColumnFilter => exact .none rfl rfl rfl rfl
  | step delta => exact wrote_selectAt n _
  | selectFirst => exact wrote_selectAt n _
  | selectLast => exact wrote_selectAt n _
  | requestDrillDown d value source r =>
    exact wrote_request (requestDrillDown_eq n d value source r)
  | drillDownSelected => exact wrote_request (drillDownSelected_eq n)
  | setTimestamp t => exact wrote_setTimestamp n t
  | takeUpdate => exact absurd rfl h
  | onSnapshot s => exact wrote_onSnapshot n s

theorem shown_apply (op : NavigatorOp) :
    (n.apply op).shown = n.shown.writeAll (n.writes op) := by
  by_cases h : op = .takeUpdate
  · rw [h, apply, takeUpdate_eq]
    rfl
  · exact (wrote_apply n h).shown

theorem catalog_apply (op : NavigatorOp) : (n.apply op).catalog = n.catalog := by
  by_cases h : op = .takeUpdate
  · rw [h, apply, takeUpdate_eq]
  · exact (wrote_apply n h).catalog

/-! ## Within one operation no write undoes another -/

theorem lasting_enter (k : Collection) (f : Option ColumnFilter) :
    Write.Lasting (.tab k :: resets f) := by
  cases f with
  | none => exact Write.lasting_one _
  | some f =>
    intro s w hw
    obtain rfl | rfl : w = .tab k ∨ w = .view none := by simpa [resets] using hw
    · rfl
    · rfl

theorem lasting_entries (o : Option Pending) : Write.Lasting (n.entries o) := by
  cases o with
  | none => exact Write.lasting_nil
  | some p => exact lasting_enter p.tab _

theorem lasting_stamps (s : Snapshot) (f : Option ColumnFilter) :
    Write.Lasting (n.stamps s ++ resets f) := by
  unfold stamps
  cases n.catalog.mode with
  | live =>
    cases f with
    | none => exact Write.lasting_nil
    | some f => exact Write.lasting_one _
  | history =>
    cases f with
    | none => exact Write.lasting_one _
    | some f =>
      intro x w hw
      obtain rfl | rfl : w = .timestamp (some s.timestamp) ∨ w = .view none := by
        simpa [resets] using hw
      · rfl
      · rfl

theorem lasting_writes (op : NavigatorOp) : Write.Lasting (n.writes op) := by
  cases op with
  | changeTab tab =>
    show Write.Lasting (if tab = n.state.tab then [] else [.tab tab])
    split
    · exact Write.lasting_nil
    · exact Write.lasting_one _
  | changeView view => exact Write.lasting_one _
  | cycleView =>
    unfold writes
    cases n.nextView? with
    | none => exact Write.lasting_nil
    | some next => exact Write.lasting_one _
  | changeFilterText text => exact Write.lasting_one _
  | setTimestamp t => exact Write.lasting_one _
  | requestDrillDown d value source r => exact lasting_entries n _
  | drillDownSelected => exact lasting_entries n _
  | onSnapshot s => exact lasting_stamps n s _
  | _ => exact Write.lasting_nil

/-- A change of the address by an operation is noted, and nothing else is. -/
theorem dirty_apply (h : op ≠ .takeUpdate) :
    (n.apply op).dirty = (n.dirty || decide ((n.apply op).address ≠ n.address)) :=
  (wrote_apply n h).dirty_eq (lasting_writes n op)

end Navigator

end SnapshotViewer
