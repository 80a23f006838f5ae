import SnapshotViewer.Store

/-!
# The store before and after it is closed

While the store is open it holds the snapshot that came last, counts those that came, and shows the
error that was set last unless it is over.  Once it is closed, nothing that comes late gets into it
any more.  One change remains possible: the error can still be taken away.

## Main definitions

* `StoreOp.snapshot?`, `StoreOp.error?` — what an operation puts into an open store.
* `Store.run` — several operations.

## Main statements

* `apply_of_open`, `apply_of_closed` — one operation.
* `run_of_open`, `run_of_closed` — several operations.
* `run_close` — a store that is closed in between.
-/

namespace SnapshotViewer

namespace StoreOp

/-- The snapshot that an operation brings. -/
def snapshot? : StoreOp → Option Snapshot
  | replace s => some s
  | setError _ | clearError | close => none

/-- What an operation makes of the error: `some none` takes it away. -/
def error? : StoreOp → Option (Option String)
  | replace _ => some none
  | setError message => some (some message)
  | clearError => some none
  | close => none

end StoreOp

namespace Store
variable {st : Store}

/-- The store after several operations. -/
def run (st : Store) (ops : List StoreOp) : Store := ops.foldl apply st

theorem run_cons (st : Store) (op : StoreOp) (ops : List StoreOp) :
    st.run (op :: ops) = (st.apply op).run ops := rfl

theorem run_append (st : Store) (xs ys : List StoreOp) :
    st.run (xs ++ ys) = (st.run xs).run ys := List.foldl_append

/-- What an operation does to an open store, unless it closes it. -/
theorem apply_of_open (h : st.closed = false) {op : StoreOp} (hop : op ≠ .close) :
    st.apply op =
      { current := op.snapshot?.or st.current
        generation := st.generation + op.snapshot?.toList.length
        error := op.error?.getD st.error
        closed := false } := by
  cases op with
  | replace s => simp [apply, replace, h, StoreOp.snapshot?, StoreOp.error?]
  | setError message => simp [apply, setError, h, StoreOp.snapshot?, StoreOp.error?]
  | clearError => simp [apply, clearError, h, StoreOp.snapshot?, StoreOp.error?]
  | close => exact absurd rfl hop

/-- All that can happen to a closed store is that its error is taken away. -/
theorem apply_of_closed (h : st.closed = true) (op : StoreOp) :
    st.apply op = { st with error := if op = .clearError then none else st.error } := by
  obtain ⟨current, generation, error, closed⟩ := st
  subst h
  cases op with
  | replace s => rfl
  | setError message => rfl
  | clearError => rfl
  | close => rfl

theorem run_of_open (h : st.closed = false) {ops : List StoreOp} (hops : .close ∉ ops) :
    st.run ops =
      { current := (ops.filterMap StoreOp.snapshot?).getLast?.or st.current
        generation := st.generation + (ops.filterMap StoreOp.snapshot?).length
        error := (ops.filterMap StoreOp.error?).getLast?.getD st.error
        closed := false } := by
  induction ops generalizing st with
  | nil => simp [run, ← h]
  | cons op ops ih =>
    rw [List.mem_cons, not_or] at hops
    rw [run_cons, apply_of_open h (Ne.symm hops.1), ih rfl hops.2]
    simp only [List.filterMap_cons]
    cases op with
    | replace s =>
      simp [StoreOp.snapshot?, StoreOp.error?, List.getLast?_cons, Nat.add_comm, Nat.add_left_comm]
    | setError message => simp [StoreOp.snapshot?, StoreOp.error?, List.getLast?_cons]
    | clearError => simp [StoreOp.snapshot?, StoreOp.error?, List.getLast?_cons]
    | close => exact absurd rfl hops.1

theorem run_of_closed (h : st.closed = true) (ops : List StoreOp) :
    st.run ops = { st with error := if .clearError ∈ ops then none else st.error } := by
  induction ops generalizing st with
  | nil => simp [run]
  | cons op ops ih =>
    have hclosed : (st.apply op).closed = true := by simpa [apply_of_closed h] using h
    rw [run_cons, ih hclosed, apply_of_closed h]
    by_cases hop : op = .clearError
    · simp [hop]
    · simp [hop, Ne.symm hop]

/-- An open store holds the snapshot that came last and counts all of them.  When it is closed, what
it holds, the count and the error stay, whatever comes then, and no snapshot is accepted; but the
error can be taken away. -/
theorem run_close {before : List StoreOp} (after : List StoreOp) (h : .close ∉ before) :
    let opened := run {} before
    let closed := run {} (before ++ .close :: after)
    (opened.current = (before.filterMap StoreOp.snapshot?).getLast? ∧
        opened.generation = (before.filterMap StoreOp.snapshot?).length ∧
        opened.error = (before.filterMap StoreOp.error?).getLast?.join ∧ opened.accepts = true) ∧
      closed =
        { opened with
          error := if .clearError ∈ after then none else opened.error
          closed := true } ∧
      closed.accepts = false := by
  intro opened closed
  have hopened : opened = _ := run_of_open rfl h
  have hclosed : closed = opened.close.run after := run_append {} before (.close :: after)
  rw [run_of_closed rfl] at hclosed
  refine ⟨?_, hclosed, by rw [hclosed]; rfl⟩
  rw [hopened]
  have herror : (before.filterMap StoreOp.error?).getLast?.getD none =
      (before.filterMap StoreOp.error?).getLast?.join := by
    cases (before.filterMap StoreOp.error?).getLast? <;> rfl
  exact ⟨Option.or_none, Nat.zero_add _, herror, rfl⟩

/-- Two snapshots and an error come in time, a snapshot and another error too late. -/
theorem run_close_late :
    let before : List StoreOp :=
      [.replace { timestamp := 1 }, .replace { timestamp := 2 }, .setError "unreachable"]
    let after : List StoreOp := [.replace { timestamp := 3 }, .setError "stream closed"]
    .close ∉ before ∧
      run {} (before ++ .close :: after) =
        { current := some { timestamp := 2 }
          generation := 2
          error := some "unreachable"
          closed := true } := by
  intro before after
  have hopen : .close ∉ before := by simp [before]
  obtain ⟨-, hclosed, -⟩ := run_close after hopen
  exact ⟨hopen, hclosed.trans rfl⟩

/-- A closed store is not left as it is by everything: an error that was set in time can still be
taken away. -/
theorem not_frozen_of_clearError :
    let closed := run {} [.setError "fetch failed", .close]
    closed.closed = true ∧ closed.error = some "fetch failed" ∧
      (closed.apply .clearError).error = none ∧ closed.apply .clearError ≠ closed := by
  decide

end Store

end SnapshotViewer
