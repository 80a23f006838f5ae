import SnapshotViewer.Proofs.Feed.History
import SnapshotViewer.Proofs.Run

/-!
# The ledger of a history

What a run has done so far is kept in a ledger beside the feed: the effects of every request, and
the answers that it has taken up.  Every step is an entry for one request at most.  The newest
request is cancelled only when it has told the listener something, so a cancelled newest request
means that there is nothing to wait for; and what is told follows the order of the requests.

## Main definitions

* `answers` — the answers that a request has taken up along a run.
* `Ledger` — the feed and what has been done so far.

## Main statements

* `Ledger.step` — a step keeps the ledger right.
* `Ledger.of_run` — the ledger of a run from the beginning on.
* `Ledger.toldBy_eq` — what a request has told, read off its answers.
* `Ledger.hasPending_iff` — whether there is something to wait for, read off the ledger.
-/

namespace SnapshotViewer.HistoryFeed

variable {f g : HistoryFeed} {n m : Nat} {t : HistoryTask} {op : HistoryOp}
  {ops : List HistoryOp} {effects more : List Effect} {taken : Nat → List FetchResult}

/-! ## Answers -/

/-- The answer of the server that a request takes up in the course of something. -/
def answer? (n : Nat) (f : HistoryFeed) : HistoryOp → Option FetchResult
  | .receive m s =>
    if m = n ∧ f.isCancelled n = false then f.tasks[n]?.bind (·.takes? s) else none
  | _ => none

/-- The answers that a request takes up along a run. -/
def answers (f : HistoryFeed) (ops : List HistoryOp) (n : Nat) : List FetchResult :=
  gather (fun f op => (f.apply op).1) (answer? n) f ops

theorem answer?_of_request? {r : HistoryRequest} (hop : op.request? = some r) :
    answer? n f op = none := by
  cases op with
  | load q => rfl
  | jump q d => rfl
  | shutdown => rfl
  | receive m s => cases hop

theorem answer?_of_silent (h : ∀ t, f.tasks[m]? = some t → f.isCancelled m = true)
    (s : Signal) : answer? n f (.receive m s) = none := by
  by_cases hm : m = n
  · subst hm
    cases ht : f.tasks[m]? with
    | none => simp [answer?, ht]
    | some t => simp [answer?, h t ht]
  · simp [answer?, hm]

/-! ## Entries -/

/-- The feed beside what has happened, what it wanted done, and the answers that each request has
taken up. -/
structure Ledger (f : HistoryFeed) (ops : List HistoryOp) (effects : List Effect)
    (taken : Nat → List FetchResult) : Prop extends Orderly f where
  stopped : f.stopped = true ↔ .shutdown ∈ ops
  requests : f.tasks.map (·.request) = HistoryOp.requests ops
  stands : ∀ n t, f.tasks[n]? = some t →
    HistoryTask.Stands t.request t.stage t.cancelled (Effect.queriesBy n effects) (taken n)
      (Effect.toldBy n effects)
  /-- The newest request is not cancelled before it has told something. -/
  ended : ∀ n t, f.tasks[n]? = some t → n + 1 = f.tasks.length → t.cancelled = true →
    Effect.toldBy n effects ≠ []
  made : ∀ e ∈ effects, e.request < f.tasks.length
  taken_nil : ∀ n, f.tasks.length ≤ n → taken n = []
  order : (Effect.tellers effects).Pairwise (· < ·)

namespace Ledger

theorem length_requests (h : Ledger f ops effects taken) :
    (HistoryOp.requests ops).length = f.tasks.length := by
  rw [← h.requests, List.length_map]

theorem exists_task (h : Ledger f ops effects taken) {r : HistoryRequest}
    (hr : (HistoryOp.requests ops)[n]? = some r) : ∃ t, f.tasks[n]? = some t ∧ t.request = r := by
  rwa [← h.requests, List.getElem?_map, Option.map_eq_some_iff] at hr

/-- Nothing was done for a request that is not made yet. -/
theorem request_ne (h : Ledger f ops effects taken) (hn : f.tasks.length ≤ n) :
    ∀ e ∈ effects, e.request ≠ n := by
  intro e he
  have := h.made e he
  omega

/-- The ledger of a feed that nothing has happened to. -/
theorem start (debounce retryDelay : Nat) :
    Ledger { debounce, retryDelay } [] [] fun _ => [] where
  newest n := by simp
  older n t ht := by simp at ht
  stopped := by simp
  requests := rfl
  stands n t ht := by simp at ht
  ended n t ht := by simp at ht
  made := by simp
  taken_nil n _ := rfl
  order := List.Pairwise.nil

/-- What happens without effect is written down. -/
theorem idle (h : Ledger f ops effects taken)
    (hstopped : f.stopped = true ↔ .shutdown ∈ ops ++ [op])
    (hrequests : HistoryOp.requests (ops ++ [op]) = HistoryOp.requests ops) :
    Ledger f (ops ++ [op]) effects taken :=
  { h with stopped := hstopped, requests := h.requests.trans hrequests.symm }

/-- Behind the end nothing has an effect. -/
theorem idle_of_stopped (h : Ledger f ops effects taken) (hs : f.stopped = true)
    (op : HistoryOp) : Ledger f (ops ++ [op]) effects taken := by
  have hmem : HistoryOp.shutdown ∈ ops := h.stopped.1 hs
  exact h.idle (by simp [hs, hmem]) (HistoryOp.requests_append_of_mem hmem [op])

/-- A report that nobody waits for has no effect. -/
theorem idle_of_receive (h : Ledger f ops effects taken) (m : Nat) (s : Signal) :
    Ledger f (ops ++ [.receive m s]) effects taken :=
  h.idle (by simp [h.stopped]) (HistoryOp.requests_append_of_none rfl ops)

/-- A new request is written below the ones before. -/
theorem supersede (h : Ledger f ops effects taken) (hs : f.stopped = false) {r : HistoryRequest}
    {stage : HistoryStage} {e : Effect} (hop : op.request? = some r)
    (he : e.request = f.tasks.length) (hquiet : Effect.tellers [e] = [])
    (hstands : HistoryTask.Stands r stage false (Effect.queriesBy f.tasks.length [e]) [] []) :
    Ledger (f.supersede r stage) (ops ++ [op]) (effects ++ [e]) taken := by
  have hmem : HistoryOp.shutdown ∉ ops := by simp [← h.stopped, hs]
  have htold : ∀ n, Effect.toldBy n [e] = [] := fun n =>
    Effect.toldBy_of_notMem (by simp [hquiet])
  exact
    { h.toOrderly.supersede hs r stage with
      stopped := by
        have hne : op ≠ .shutdown := by
          rintro rfl
          cases hop
        have hnot : HistoryOp.shutdown ∉ ops ++ [op] := by simp [hmem, Ne.symm hne]
        have hstopped : (f.supersede r stage).stopped = false := hs
        simp [hstopped, hnot]
      requests := by
        rw [HistoryOp.requests_append_of_notMem hmem, HistoryOp.requests_one, hop, ← h.requests]
        simp [HistoryFeed.supersede, h.tasksGivenUp_eq hs, Function.comp_def, HistoryTask.cancel]
      stands := by
        intro n t ht
        rw [Effect.queriesBy_append, Effect.toldBy_append, htold, List.append_nil]
        rcases h.task_of_supersede hs ht with ⟨u, hu, rfl⟩ | ⟨rfl, rfl⟩
        · have hlt : n < f.tasks.length := (List.getElem?_eq_some_iff.1 hu).1
          have hne : ∀ x ∈ [e], x.request ≠ n := by
            intro x hx
            rw [List.mem_singleton.1 hx, he]
            omega
          rw [Effect.queriesBy_eq_nil hne, List.append_nil]
          exact (h.stands n u hu).cancel
        · have hnone := h.request_ne (Nat.le_refl _)
          rw [Effect.queriesBy_eq_nil hnone, Effect.toldBy_eq_nil hnone,
            h.taken_nil _ (Nat.le_refl _)]
          exact hstands
      ended := by
        intro n t ht hn hcancelled
        rw [length_tasks_supersede] at hn
        rcases h.task_of_supersede hs ht with ⟨u, hu, rfl⟩ | ⟨rfl, rfl⟩
        · have hlt : n < f.tasks.length := (List.getElem?_eq_some_iff.1 hu).1
          omega
        · cases hcancelled
      made := by
        intro x hx
        rw [length_tasks_supersede]
        rcases List.mem_append.1 hx with hx | hx
        · have := h.made x hx
          omega
        · rw [List.mem_singleton.1 hx]
          omega
      taken_nil := by
        intro n hn
        rw [length_tasks_supersede] at hn
        exact h.taken_nil n (by omega)
      order := by
        rw [Effect.tellers_append, hquiet, List.append_nil]
        exact h.order }

theorem shutdown (h : Ledger f ops effects taken) :
    Ledger f.shutdown (ops ++ [.shutdown]) effects taken :=
  { h.toOrderly.shutdown, h with
    stopped := by simp [HistoryFeed.shutdown]
    requests := h.requests.trans (HistoryOp.requests_append_of_none rfl ops).symm }

/-- A report about a request that goes on is written beside this request. -/
theorem receive (h : Ledger f ops effects taken) (ht : f.tasks[m]? = some t)
    (hgoes : f.isCancelled m = false) (s : Signal) :
    Ledger { f with tasks := f.tasks.set m (t.receive m f.retryDelay s).1 }
      (ops ++ [.receive m s]) (effects ++ (t.receive m f.retryDelay s).2)
      fun n => taken n ++ (answer? n f (.receive m s)).toList := by
  have htask : t.cancelled = false := ((isCancelled_eq_false ht).1 hgoes).2
  have hnewest : m + 1 = f.tasks.length := h.newest_of_goes ht htask
  have hsilent : Effect.toldBy m effects = [] := by
    have hstands := h.stands m t ht
    rw [htask] at hstands
    exact hstands.events_of_uncancelled
  have hrequest : ∀ e ∈ (t.receive m f.retryDelay s).2, e.request = m := fun e he =>
    HistoryTask.request_of_mem_receive he
  have hself : ∀ u, (f.tasks.set m u)[m]? = some u := fun u =>
    List.getElem?_set_self (List.getElem?_eq_some_iff.1 ht).1
  exact
    { h.toOrderly.set hnewest _ with
      stopped := by simp [h.stopped]
      requests := by
        rw [HistoryOp.requests_append_of_none rfl, ← h.requests]
        refine List.ext_getElem? fun n => ?_
        rw [List.getElem?_map, List.getElem?_map]
        by_cases hn : m = n
        · rw [← hn, hself, ht, Option.map_some, Option.map_some, HistoryTask.request_receive]
        · rw [List.getElem?_set_ne hn]
      stands := by
        intro n u hu
        rw [Effect.queriesBy_append, Effect.toldBy_append]
        by_cases hn : m = n
        · subst hn
          obtain rfl := Option.some.inj ((hself _).symm.trans hu)
          have htaken : answer? m f (.receive m s) = t.takes? s := by simp [answer?, hgoes, ht]
          rw [htaken]
          exact HistoryTask.stands_receive (h.stands m t ht) htask m f.retryDelay s
        · have hne : ∀ e ∈ (t.receive m f.retryDelay s).2, e.request ≠ n := by
            intro e he
            rw [hrequest e he]
            exact hn
          have htaken : answer? n f (.receive m s) = none := by simp [answer?, hn]
          rw [Effect.queriesBy_eq_nil hne, Effect.toldBy_eq_nil hne, htaken]
          simpa using h.stands n u (by simpa [List.getElem?_set_ne hn] using hu)
      ended := by
        intro n u hu hn hcancelled
        obtain rfl : m = n := by
          have hn : n + 1 = f.tasks.length := by simpa using hn
          omega
        obtain rfl := Option.some.inj ((hself _).symm.trans hu)
        rw [Effect.toldBy_append, hsilent]
        exact HistoryTask.toldBy_of_cancelled htask hcancelled
      made := by
        intro e he
        have hlt : e.request < f.tasks.length := by
          rcases List.mem_append.1 he with he | he
          · exact h.made e he
          · have := hrequest e he
            omega
        simpa using hlt
      taken_nil := by
        intro n hn
        have hn : f.tasks.length ≤ n := by simpa using hn
        have hne : m ≠ n := by omega
        simp [h.taken_nil n hn, answer?, hne]
      order := by
        rw [Effect.tellers_append, List.pairwise_append]
        refine ⟨h.order, ?_, fun k hk j hj => ?_⟩
        · rcases t.tellers_receive m f.retryDelay s with htellers | htellers
          · rw [htellers]
            exact List.Pairwise.nil
          · rw [htellers]
            exact List.pairwise_singleton _ _
        · obtain ⟨e, he, rfl⟩ := Effect.exists_request_of_mem_tellers hj
          obtain ⟨e', he', rfl⟩ := Effect.exists_request_of_mem_tellers hk
          have hne : e'.request ≠ m := by
            intro heq
            rw [heq] at hk
            exact Effect.mem_tellers.1 hk hsilent
          have := h.made e' he'
          have := hrequest e he
          omega }

/-- Whatever happens is written down rightly. -/
theorem step (h : Ledger f ops effects taken) (hstep : Step f op g more) :
    Ledger g (ops ++ [op]) (effects ++ more) fun n => taken n ++ (answer? n f op).toList := by
  cases hstep with
  | make hs hop he hquiet hstands =>
    simpa [answer?_of_request? hop] using h.supersede hs hop he hquiet hstands
  | refuse hs hop => simpa [answer?_of_request? hop] using h.idle_of_stopped hs op
  | finish => simpa [answer?] using h.shutdown
  | report s ht hgoes => exact h.receive ht hgoes s
  | pass s hsilent => simpa [answer?_of_silent hsilent] using h.idle_of_receive _ s

end Ledger

/-- A run keeps the ledger right. -/
theorem ledger_run {done : List HistoryOp}
    (h : Ledger f done effects taken) (ops : List HistoryOp) :
    Ledger (f.run ops).1 (done ++ ops) (effects ++ (f.run ops).2)
      fun n => taken n ++ answers f ops n := by
  induction ops generalizing f done effects taken with
  | nil => simpa [run, answers] using h
  | cons op ops ih =>
    have hrest := ih (h.step (f.step_apply op))
    simpa only [run, answers, gather_cons, List.append_assoc, List.singleton_append] using hrest

/-- The ledger of a run from the beginning on. -/
theorem Ledger.of_run (debounce retryDelay : Nat) (ops : List HistoryOp) :
    Ledger (run { debounce, retryDelay } ops).1 ops (run { debounce, retryDelay } ops).2
      (answers { debounce, retryDelay } ops) := by
  simpa only [List.nil_append] using ledger_run (Ledger.start debounce retryDelay) ops

/-- What a request has told is what its answers come to. -/
theorem Ledger.toldBy_eq (h : Ledger f ops effects taken) (n : Nat) :
    Effect.toldBy n effects = (HistoryTask.conclusion (taken n)).toList := by
  cases ht : f.tasks[n]? with
  | some t => exact (h.stands n t ht).events_eq
  | none =>
    have hn := List.getElem?_eq_none_iff.1 ht
    rw [h.taken_nil n hn, Effect.toldBy_eq_nil (h.request_ne hn)]
    rfl

/-- There is something to wait for as long as the newest request has told nothing. -/
theorem Ledger.hasPending_iff (h : Ledger f ops effects taken) :
    f.hasPending = true ↔ .shutdown ∉ ops ∧
      ∃ n, (HistoryOp.requests ops).length = n + 1 ∧ Effect.toldBy n effects = [] := by
  rw [h.length_requests, ← h.stopped]
  constructor
  · intro hpending
    obtain ⟨n, hnewest, hgoes⟩ : ∃ n, f.newest = some n ∧ f.isCancelled n = false := by
      simpa [hasPending, Option.any_eq_true] using hpending
    obtain ⟨hs, hn⟩ := (h.newest n).1 hnewest
    have ht : f.tasks[n]? = some f.tasks[n] := List.getElem?_eq_getElem (by omega)
    have hstands := h.stands n _ ht
    rw [((isCancelled_eq_false ht).1 hgoes).2] at hstands
    exact ⟨by simp [hs], n, hn.symm, hstands.events_of_uncancelled⟩
  · rintro ⟨hs, n, hn, hsilent⟩
    have hs : f.stopped = false := by simpa using hs
    have ht : f.tasks[n]? = some f.tasks[n] := List.getElem?_eq_getElem (by omega)
    have hgoes : f.isCancelled n = false := by
      refine (isCancelled_eq_false ht).2 ⟨hs, ?_⟩
      cases hcancelled : f.tasks[n].cancelled with
      | false => rfl
      | true => exact absurd hsilent (h.ended n _ ht hn.symm hcancelled)
    simp [hasPending, (h.newest n).2 ⟨hs, hn.symm⟩, hgoes]

end SnapshotViewer.HistoryFeed
