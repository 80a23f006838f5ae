import SnapshotViewer.Proofs.Viewer.Connection

/-!
# The notice that a credential is demanded

When the server demands a credential for the first time, the viewer puts a notice into the store
and never does so again.  The notice has no place of its own there: a snapshot that is shown later
takes it away, and a request that fails later for another reason puts its own message in its place.
So the notice can be gone while a credential is still asked for.

## Main definitions

* `overrules?` — what something that happens puts in the place of the notice.

## Main statements

* `error_run` — what is said behind a run that began with a demand.
* `notice_of_demand` — the notice is there as long as nothing overrules it, and not any longer.
-/

namespace SnapshotViewer

namespace ProviderError

theorem head?_message (e : ProviderError) : e.message.toList.head? ≠ some 'A' := by
  have hhead : ∀ (c : Char) (s t : String), s.toList.head? = some c →
      (s ++ t).toList.head? = some c := by
    intro c s t h
    rw [String.toList_append, List.head?_append, h]
    rfl
  cases e with
  | http status =>
    have h : (message (.http status)).toList.head? = some 'H' := hhead 'H' _ _ (by decide)
    simp [h]
  | unauthorized => decide
  | transport m =>
    have h : (message (.transport m)).toList.head? = some 'T' := hhead 'T' _ _ (by decide)
    simp [h]
  | parse m =>
    have h : (message (.parse m)).toList.head? = some 'P' := hhead 'P' _ _ (by decide)
    simp [h]

/-- No error of a request reads like the notice. -/
theorem message_ne_notice (e : ProviderError) : e.message ≠ reauthNotice := by
  intro h
  have hnotice : reauthNotice.toList.head? = some 'A' := by decide
  rw [← h] at hnotice
  exact e.head?_message hnotice

end ProviderError

namespace Viewer

/-- What something that happens puts in the place of the notice: a snapshot that is shown takes it
away, and a request that fails for another reason says why. -/
def overrules? (v : Viewer) : ViewerOp → Option (Option String)
  | .event (.failed e) => if e = .unauthorized then none else some (some e.message)
  | op => (v.shows? op).map fun _ => none

variable {v w : Viewer} {op : ViewerOp}

theorem overrules?_ne (v : Viewer) (op : ViewerOp) :
    v.overrules? op ≠ some (some reauthNotice) := by
  unfold overrules?
  split
  · next e =>
    by_cases he : e = .unauthorized
    · simp [he]
    · simpa [he] using e.message_ne_notice
  · simp

theorem overrules?_eq_none (h : ∀ e, op = .event e → ∃ s, e = .snapshot s)
    (hshows : v.shows? op = none) : v.overrules? op = none := by
  cases op with
  | event e =>
    obtain ⟨s, rfl⟩ := h e rfl
    simp [overrules?, hshows]
  | _ => rfl

/-- A further demand does not overrule the notice. -/
theorem overrules?_of_demands (h : op.demands v.session = true) : v.overrules? op = none := by
  cases op with
  | event e =>
    cases e with
    | snapshot s => cases h
    | transient e => rfl
    | failed e => simpa [ViewerOp.demands, overrules?] using h
  | _ => cases h

/-! ## Turns -/

namespace Turn
variable (h : Turn v op w) (hopen : v.store.closed = false)
include h hopen

/-- The first demand puts the notice into the store. -/
theorem error_of_demanded (hc : v.connection ≠ .reauthRequired)
    (hop : op.demands v.session = true) : w.store.error = some reauthNotice := by
  cases h with
  | aside hevent hshows h => simp [demands_eq_false hevent] at hop
  | shown hshows h => simp [ViewerOp.demands] at hop
  | broken hreaction h => simp [ViewerOp.demands, hreaction] at hop
  | demanded hdemands h =>
    rw [h.error, requireReauth_of_unrequired hc]
    simp [Store.setError, hopen]
  | failed hother h => simp [ViewerOp.demands, hother] at hop

/-- Behind a demand the error changes only when it is overruled. -/
theorem error_of_required (hc : v.connection = .reauthRequired) :
    w.store.error = (v.overrules? op).getD v.store.error := by
  cases h with
  | aside hevent hshows h => simp [h.error, overrules?_eq_none hevent hshows]
  | shown hshows h => simp [h.error, reached_eq, overrules?, hshows, Store.replace, hopen]
  | broken hreaction h => simp [h.error, reached_eq, overrules?, shows?]
  | demanded hdemands h =>
    simp [h.error, requireReauth_of_required hc, overrules?_of_demands hdemands]
  | failed hother h => simp [h.error, overrules?, hother, Store.setError, hopen]

end Turn

/-! ## Runs -/

theorem closed_run (state : Viewer × Files) (ops : List ViewerOp) :
    (run state ops).1.store.closed = state.1.store.closed := by
  induction ops generalizing state with
  | nil => rfl
  | cons op ops ih => exact (ih (apply state op)).trans (store_apply state.1 state.2 op).2.2

/-- Behind a demand, what overrules the notice last is what is said. -/
theorem error_run {state : Viewer × Files} (hopen : state.1.store.closed = false)
    (hc : state.1.connection = .reauthRequired) (ops : List ViewerOp) :
    (run state ops).1.store.error =
      (gather apply (fun s => s.1.overrules?) state ops).getLast?.getD state.1.store.error := by
  induction ops generalizing state with
  | nil => rfl
  | cons op ops ih =>
    have hturn := turn_apply state.1 state.2 op
    have hstill : (apply state op).1.connection = .reauthRequired := by
      rw [hturn.connection, if_pos (.inl hc)]
    have hstillopen : (apply state op).1.store.closed = false :=
      (store_apply state.1 state.2 op).2.2.trans hopen
    rw [run_cons, ih hstillopen hstill, hturn.error_of_required hopen hc, last_gather_cons]

/-- A run up to the first demand leads to the notice. -/
theorem notice_run {begin : Viewer × Files} (hopen : begin.1.store.closed = false)
    (hc : begin.1.connection ≠ .reauthRequired) {before : List ViewerOp}
    (hbefore : ∀ x ∈ before, x.demands begin.1.session = false)
    (hop : op.demands begin.1.session = true) :
    (run begin (before ++ [op])).1.connection = .reauthRequired ∧
      (run begin (before ++ [op])).1.store.error = some reauthNotice := by
  have hrun : run begin (before ++ [op]) = apply (run begin before) op := by simp [run]
  have hturn := turn_apply (run begin before).1 (run begin before).2 op
  have hdemands : op.demands (run begin before).1.session = true := by rwa [session_run]
  have hnone : ¬∃ x ∈ before, x.demands begin.1.session = true := by
    rintro ⟨x, hx, hdemanded⟩
    simp [hbefore x hx] at hdemanded
  have hconnection : (run begin before).1.connection ≠ .reauthRequired := by
    rw [connection_run, if_neg (by simp only [hc, hnone, or_self, not_false_eq_true])]
    exact lastHeard_ne hc begin before
  have hstillopen : (run begin before).1.store.closed = false := by rwa [closed_run]
  rw [hrun]
  exact ⟨by rw [hturn.connection, if_pos (.inr hdemands)],
    hturn.error_of_demanded hstillopen hconnection hdemands⟩

/-- What overrules the notice never is the notice itself. -/
theorem lastOverruled_eq_iff (state : Viewer × Files) (ops : List ViewerOp) :
    (gather apply (fun s => s.1.overrules?) state ops).getLast?.getD (some reauthNotice) =
        some reauthNotice ↔
      gather apply (fun s => s.1.overrules?) state ops = [] := by
  generalize hoverruled : gather apply (fun s => s.1.overrules?) state ops = overruled
  cases hlast : overruled.getLast? with
  | none => simpa using hlast
  | some error =>
    have hmem := List.mem_of_getLast? hlast
    rw [← hoverruled] at hmem
    obtain ⟨s, op, hop⟩ := exists_of_mem_gather hmem
    have hne : error ≠ some reauthNotice := by
      rintro rfl
      exact overrules?_ne s.1 op hop
    have hsome : overruled ≠ [] := by
      intro hnil
      simp [hnil] at hlast
    simp [hne, hsome]

/-- From the first demand on a credential is asked for, and what overrules the notice last is what
is said; so the notice is there as long as nothing overrules it, and not any longer. -/
theorem notice_of_demand (nav : Navigator) (source : Source) (session : Session)
    (addressFile : Option Path) (fs : Files) {before : List ViewerOp} {op : ViewerOp}
    (after : List ViewerOp) (hbefore : ∀ x ∈ before, x.demands session = false)
    (hop : op.demands session = true) :
    let demanded := run (start nav source session addressFile, fs) (before ++ [op])
    let overruled := gather apply (fun state => state.1.overrules?) demanded after
    let state := run demanded after
    state.1.connection = .reauthRequired ∧
      state.1.store.error = overruled.getLast?.getD (some reauthNotice) ∧
      (state.1.store.error = some reauthNotice ↔ overruled = []) := by
  intro demanded overruled state
  obtain ⟨hc, hnotice⟩ : demanded.1.connection = .reauthRequired ∧
      demanded.1.store.error = some reauthNotice :=
    notice_run rfl (by simp [start]) hbefore hop
  have hopen : demanded.1.store.closed = false := closed_run _ _
  have herror : state.1.store.error = overruled.getLast?.getD (some reauthNotice) := by
    rw [← hnotice]
    exact error_run hopen hc after
  refine ⟨by rw [connection_run, if_pos (.inl hc)], herror, ?_⟩
  rw [herror]
  exact lastOverruled_eq_iff demanded after

/-- A history shows a snapshot, and the next request is refused.  A key does not overrule the
notice, but a request that fails for another reason does. -/
theorem notice_of_demand_history :
    let session : Session := { baseUrl := "" }
    let begin : Viewer × Files :=
      (start (Navigator.start { mode := .history } {}) (.history {}) session none, {})
    let before : List ViewerOp := [.event (.snapshot { timestamp := 1000 })]
    let op : ViewerOp := .event (.failed .unauthorized)
    let press : ViewerOp := .key 0 { code := .char '2' }
    let demanded := run begin (before ++ [op])
    ((∀ x ∈ before, x.demands session = false) ∧ op.demands session = true) ∧
      (run demanded [press]).1.store.error = some reauthNotice ∧
      (run demanded [press, .event (.failed (.http 502))]).1.store.error =
        some "HTTP error: status 502" := by
  intro session begin before op press demanded
  have hbefore : ∀ x ∈ before, x.demands session = false := by
    simp [before, ViewerOp.demands]
  have hop : op.demands session = true := by simp [op, ViewerOp.demands]
  obtain ⟨-, -, hnotice⟩ := notice_of_demand (Navigator.start { mode := .history } {})
    (.history {}) session none {} [press] hbefore hop
  obtain ⟨-, herror, -⟩ := notice_of_demand (Navigator.start { mode := .history } {})
    (.history {}) session none {} [press, .event (.failed (.http 502))] hbefore hop
  exact ⟨⟨hbefore, hop⟩, hnotice.2 (by decide +kernel), herror.trans (by decide +kernel)⟩

/-- A jump of a history is refused and the next one is not: a credential is asked for, but nothing
says so any more. -/
theorem not_noticed_of_snapshot :
    let begin : Viewer × Files :=
      (start (Navigator.start { mode := .history } {}) (.history {}) { baseUrl := "" } none, {})
    let state := run begin
      [.event (.failed .unauthorized), .event (.snapshot { timestamp := 1000 })]
    state.1.connection = .reauthRequired ∧ state.1.store.error = none ∧
      ¬(state.1.connection = .reauthRequired → state.1.store.error = some reauthNotice) := by
  intro begin state
  have hstate : state.1.connection = .reauthRequired ∧ state.1.store.error = none := by
    decide +kernel
  refine ⟨hstate.1, hstate.2, fun h => ?_⟩
  have hnotice := h hstate.1
  rw [hstate.2] at hnotice
  cases hnotice

end Viewer

end SnapshotViewer
