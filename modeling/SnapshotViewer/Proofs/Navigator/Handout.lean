import SnapshotViewer.Proofs.Navigator.Writes

/-!
# The address is handed out once per change

Whoever saves the address asks the navigator for it from time to time and is given it only if
something has changed it since.  The navigator does not compare addresses for that: it keeps a
note, which the parts of an operation make one by one and handing out takes away.  Since the note
behind an operation says whether that operation has changed the address (`dirty_apply`), the note
behind a run says whether some operation of the run has.

## Main definitions

* `changesAddress` — whether some operation of a run changes the address.
* `handedOut` — the addresses that a run hands out.
* `ReportsChanges` — the address is handed out exactly when it has to be.

## Main statements

* `dirty_run` — the note behind a run.
* `address_eq_handedOut` — with nothing due, the address is the one last handed out.
* `start_reportsChanges` — a fresh navigator hands its address out exactly when it has to.
-/

namespace SnapshotViewer.Navigator

/-- Whether some operation of a run changes the address. -/
def changesAddress (n : Navigator) : List NavigatorOp → Bool
  | [] => false
  | op :: ops => decide ((n.apply op).address ≠ n.address) || (n.apply op).changesAddress ops

/-- The address that an operation hands out. -/
def handsOut? (n : Navigator) : NavigatorOp → Option Address
  | .takeUpdate => n.takeUpdate.2
  | _ => none

/-- The addresses that a run hands out, in order. -/
def handedOut (n : Navigator) : List NavigatorOp → List Address
  | [] => []
  | op :: ops => (n.handsOut? op).toList ++ (n.apply op).handedOut ops

/-- How the runs from a navigator hand the address out. -/
structure ReportsChanges (n : Navigator) : Prop where
  /-- Asking hands the address out exactly if some operation has changed it since the address was
  last asked for, or since the start. -/
  exact : ∀ earlier between,
    (earlier = [] ∨ ∃ front, earlier = front ++ [.takeUpdate]) → .takeUpdate ∉ between →
    (n.run (earlier ++ between)).takeUpdate.2 =
      if (n.run earlier).changesAddress between then some (n.run (earlier ++ between)).address
      else none
  /-- With nothing to hand out, the address is the one last handed out, or that of the start. -/
  last : ∀ ops, (n.run ops).takeUpdate.2 = none →
    (n.run ops).address = (n.handedOut ops).getLast?.getD n.address
  /-- The start itself is no change. -/
  start : n.takeUpdate.2 = none

variable {n : Navigator}

theorem takeUpdate_eq_none_iff : n.takeUpdate.2 = none ↔ n.dirty = false := by
  rw [takeUpdate_eq]
  cases n.dirty <;> simp

/-- Behind a run in which the address is not asked for, the note says whether there was one
before or something has changed the address. -/
theorem dirty_run {ops : List NavigatorOp} (h : .takeUpdate ∉ ops) :
    (n.run ops).dirty = (n.dirty || n.changesAddress ops) := by
  induction ops generalizing n with
  | nil => simp [changesAddress]
  | cons op ops ih =>
    rw [List.mem_cons, not_or] at h
    rw [run_cons, ih h.2, dirty_apply n (Ne.symm h.1), changesAddress, Bool.or_assoc]

/-- If nothing is due at the start, or the address is `a` then, and nothing is due at the end,
the address is the one last handed out, or else `a`. -/
theorem address_eq_handedOut {a : Address} (hstart : n.dirty = false → n.address = a)
    {ops : List NavigatorOp} (hend : (n.run ops).dirty = false) :
    (n.run ops).address = (n.handedOut ops).getLast?.getD a := by
  induction ops generalizing n a with
  | nil => exact hstart hend
  | cons op ops ih =>
    by_cases hop : op = .takeUpdate
    · subst hop
      have happly : n.apply .takeUpdate = { n with dirty := false } := by rw [apply, takeUpdate_eq]
      rw [run_cons] at hend ⊢
      rw [handedOut, handsOut?]
      cases hdirty : n.dirty with
      | false =>
        have hnone : n.takeUpdate.2 = none := takeUpdate_eq_none_iff.2 hdirty
        rw [hnone, Option.toList_none, List.nil_append]
        refine ih (fun _ => ?_) hend
        rw [happly]
        exact hstart hdirty
      | true =>
        -- The address that is handed out here is the one to compare with from now on.
        have hsome : n.takeUpdate.2 = some n.address := by rw [takeUpdate_eq, hdirty]; rfl
        rw [hsome, Option.toList_some, List.singleton_append, List.getLast?_cons, Option.getD_some]
        exact ih (fun _ => by rw [happly]) hend
    · have hnothing : n.handsOut? op = none := by
        cases op with
        | takeUpdate => exact absurd rfl hop
        | _ => rfl
      rw [handedOut, hnothing, Option.toList_none, List.nil_append]
      refine ih (fun hclean => ?_) hend
      rw [dirty_apply n hop, Bool.or_eq_false_iff] at hclean
      have hsame : (n.apply op).address = n.address := by simpa using hclean.2
      rw [hsame]
      exact hstart hclean.1

/-- Nothing is due at the start and behind an asking. -/
theorem dirty_run_asked (catalog : Catalog) (seed : Address) {earlier : List NavigatorOp}
    (h : earlier = [] ∨ ∃ front, earlier = front ++ [.takeUpdate]) :
    ((start catalog seed).run earlier).dirty = false := by
  rcases h with rfl | ⟨front, rfl⟩
  · rfl
  · rw [run_append, run_cons, run_nil, apply, takeUpdate_eq]

/-- From its start on, a navigator hands its address out exactly when it has to: no change is
lost, and none is invented. -/
theorem start_reportsChanges (catalog : Catalog) (seed : Address) :
    (start catalog seed).ReportsChanges where
  exact := by
    intro earlier between hearlier hbetween
    rw [takeUpdate_eq, run_append, dirty_run hbetween, dirty_run_asked catalog seed hearlier,
      Bool.false_or]
  last := by
    intro ops hops
    exact address_eq_handedOut (fun _ => rfl) (takeUpdate_eq_none_iff.1 hops)
  start := rfl

/-- A filter that is set and taken away again counts as a change, once. -/
example :
    let n := (start { mode := .live } {}).run [.changeFilterText "x", .changeFilterText ""]
    n.takeUpdate.2 = some {} ∧ n.takeUpdate.1.takeUpdate.2 = none := by
  decide +kernel

end SnapshotViewer.Navigator
