import SnapshotViewer.Proofs.Feed.Ledger

/-!
# Requests of a history take each other's place

Whatever happens in whatever order, a request tells one thing at most, and only as long as no
other one has taken its place.  What it asks for and what it tells follows from the answers that
it has taken up in the meantime.

## Main definitions

* `SupersedesCleanly` — what becomes of the requests of a run.

## Main statements

* `silent_of_run`, `queriesBy_of_settling` — a request whose place is taken.
* `length_answers_lt_of_due` — the newest request goes on.
* `supersedes_cleanly` — what becomes of all requests.
-/

namespace SnapshotViewer.HistoryFeed

variable {n : Nat} {op : HistoryOp}

/-- What becomes of the requests of a run that starts at a feed. -/
structure SupersedesCleanly (f : HistoryFeed) (ops : List HistoryOp) : Prop where
  /-- A request tells at most one thing. -/
  once : ∀ n, (Effect.toldBy n (f.run ops).2).length ≤ 1
  /-- What is told follows the order of the requests. -/
  ordered : (Effect.tellers (f.run ops).2).Pairwise (· < ·)
  /-- Once there is a newer request, or the feed has ended, nothing is done for a request. -/
  superseded : ∀ before op after n, ops = before ++ op :: after → op.supersedes = true →
    n < (HistoryOp.requests before).length →
    ∀ e ∈ ((f.run before).1.run (op :: after)).2, e.request ≠ n
  /-- A jump whose place is taken before its time is over asks for nothing. -/
  settling : ∀ before t d between op after n,
    ops = before ++ .jump t d :: (between ++ op :: after) →
    n = (HistoryOp.requests before).length → .receive n .due ∉ between →
    op.supersedes = true → Effect.queriesBy n (f.run ops).2 = []
  /-- A request asks for two things at most, and for the second one only when it has taken up an
  error in answer to the first. -/
  queries : ∀ n r, (HistoryOp.requests ops)[n]? = some r →
    Effect.queriesBy n (f.run ops).2 <+: [r.first, r.second] ∧
      (f.answers ops n).length ≤ (Effect.queriesBy n (f.run ops).2).length ∧
      ((Effect.queriesBy n (f.run ops).2).length = 2 →
        ∃ e, (f.answers ops n).head? = some (.error e))
  /-- The first load asks at once. -/
  load : ∀ n q, (HistoryOp.requests ops)[n]? = some (.load q) →
    Effect.queriesBy n (f.run ops).2 ≠ []
  /-- A jump asks for the second thing as soon as it has taken up an error. -/
  fallback : ∀ n q e, (HistoryOp.requests ops)[n]? = some (.jump q) →
    f.answers ops n = [.error e] → (Effect.queriesBy n (f.run ops).2).length = 2
  /-- When its time is over, the newest request has asked for more than it was answered, unless
  it has told something. -/
  due : ∀ before after n, ops = before ++ .receive n .due :: after → .shutdown ∉ before →
    (HistoryOp.requests before).length = n + 1 → Effect.toldBy n (f.run before).2 = [] →
    (f.answers before n).length < (Effect.queriesBy n (f.run ops).2).length
  /-- What a request tells is what the answers come to. -/
  told : ∀ n, Effect.toldBy n (f.run ops).2 = (HistoryTask.conclusion (f.answers ops n)).toList
  /-- There is something to wait for exactly as long as the newest request has told nothing, and
  the feed has not ended. -/
  pending : (f.run ops).1.hasPending = true ↔ .shutdown ∉ ops ∧
    ∃ n, (HistoryOp.requests ops).length = n + 1 ∧ Effect.toldBy n (f.run ops).2 = []

/-- A request that takes another one's place does so for good. -/
theorem silent_of_run (debounce retryDelay : Nat) {before : List HistoryOp}
    (hop : op.supersedes = true) (hn : n < (HistoryOp.requests before).length)
    (after : List HistoryOp) :
    ∀ e ∈ ((run { debounce, retryDelay } before).1.run (op :: after)).2, e.request ≠ n := by
  have h := Ledger.of_run debounce retryDelay before
  rw [h.length_requests] at hn
  exact silent_run_of_supersedes h.toOrderly hop hn

/-- A jump asks for nothing when its place is taken before its time is over. -/
theorem queriesBy_of_settling (debounce retryDelay : Nat) {before between : List HistoryOp}
    (t : Int) (d : Option Direction) (hn : n = (HistoryOp.requests before).length)
    (hbetween : .receive n .due ∉ between) (hop : op.supersedes = true)
    (after : List HistoryOp) :
    Effect.queriesBy n (run { debounce, retryDelay }
      (before ++ .jump t d :: (between ++ op :: after))).2 = [] := by
  have h := Ledger.of_run debounce retryDelay before
  rw [h.length_requests] at hn
  generalize hf : (run { debounce, retryDelay } before).1 = f at h hn
  have hbefore := Effect.queriesBy_eq_nil (h.request_ne (Nat.le_of_eq hn.symm))
  rw [run_append, Effect.queriesBy_append, hbefore, hf, List.nil_append]
  cases hs : f.stopped with
  | true =>
    exact Effect.queriesBy_eq_nil (silent_run (isCancelled_of_stopped hs n) _)
  | false =>
    have hjump : f.apply (.jump t d) =
        (f.supersede (.jump (.near t d)) .settling, [.sleep f.tasks.length f.debounce]) := by
      simp [apply, jump, hs]
    have ht : (f.supersede (.jump (.near t d)) .settling).tasks[n]? =
        some { request := .jump (.near t d), stage := .settling } := by
      simp [supersede, hn, ← length_tasksGivenUp f]
    obtain ⟨hlength, hquiet⟩ := settling_run ht rfl hbetween
    have horderly : Orderly ((f.supersede (.jump (.near t d)) .settling).run between).1 := by
      have := (ledger_run (h.step (f.step_apply (.jump t d))) between).toOrderly
      rwa [hjump] at this
    rw [run, hjump]
    dsimp only
    rw [run_append, Effect.queriesBy_append, Effect.queriesBy_append, hquiet,
      Effect.queriesBy_eq_nil (silent_run_of_supersedes horderly hop hlength)]
    rfl

/-- The newest request asks when its time is over. -/
theorem length_answers_lt_of_due (debounce retryDelay : Nat) {before : List HistoryOp}
    (hbefore : .shutdown ∉ before) (hn : (HistoryOp.requests before).length = n + 1)
    (hsilent : Effect.toldBy n (run { debounce, retryDelay } before).2 = [])
    (after : List HistoryOp) :
    (answers { debounce, retryDelay } before n).length <
      (Effect.queriesBy n (run { debounce, retryDelay }
        (before ++ .receive n .due :: after)).2).length := by
  have h := Ledger.of_run debounce retryDelay before
  have hpending := h.hasPending_iff.2 ⟨hbefore, n, hn, hsilent⟩
  rw [h.length_requests] at hn
  generalize hf : (run { debounce, retryDelay } before).1 = f at h hn hpending
  have ht : f.tasks[n]? = some f.tasks[n] := List.getElem?_eq_getElem (by omega)
  have hgoes : f.isCancelled n = false := by
    rw [← h.stopped, Bool.not_eq_true] at hbefore
    have hnewest : f.newest = some n := (h.newest n).2 ⟨hbefore, hn.symm⟩
    simpa [hasPending, hnewest] using hpending
  have hlt := HistoryTask.length_answers_lt (h.stands n _ ht) ((isCancelled_eq_false ht).1 hgoes).2
    n f.retryDelay
  rw [run_append, hf, run, apply, receive_of_task ht hgoes]
  simp only [Effect.queriesBy_append, List.length_append] at hlt ⊢
  omega

/-- Whatever happens in whatever order, each request makes way for the next one. -/
theorem supersedes_cleanly (debounce retryDelay : Nat) (ops : List HistoryOp) :
    SupersedesCleanly { debounce, retryDelay } ops := by
  have h := Ledger.of_run debounce retryDelay ops
  exact
    { once := by
        intro n
        rw [h.toldBy_eq]
        exact Option.length_toList_le
      ordered := h.order
      superseded := by
        intro before op after n _ hop hn
        exact silent_of_run debounce retryDelay hop hn after
      settling := by
        intro before t d between op after n hops hn hbetween hop
        rw [hops]
        exact queriesBy_of_settling debounce retryDelay t d hn hbetween hop after
      queries := by
        intro n r hr
        obtain ⟨t, ht, rfl⟩ := h.exists_task hr
        have hstands := h.stands n t ht
        exact ⟨hstands.queries_prefix, hstands.length_answers_le, hstands.head_answers⟩
      load := by
        intro n q hr
        obtain ⟨t, ht, hq⟩ := h.exists_task hr
        exact (h.stands n t ht).queries_ne_nil hq
      fallback := by
        intro n q e hr hanswers
        obtain ⟨t, ht, hq⟩ := h.exists_task hr
        exact (h.stands n t ht).length_queries hq hanswers
      due := by
        intro before after n hops hbefore hn hsilent
        rw [hops]
        exact length_answers_lt_of_due debounce retryDelay hbefore hn hsilent after
      told := h.toldBy_eq
      pending := h.hasPending_iff }

-- Of two jumps in a row the second alone asks the server.
example : (run {} [.jump 5 none, .jump 7 none, .receive 0 .due, .receive 1 .due]).2 =
    [.sleep 0 50, .sleep 1 50, .fetch 1 (.near 7 none)] := by decide

end SnapshotViewer.HistoryFeed
