import SnapshotViewer.Proofs.Feed.Request

/-!
# Steps of the feed of a history

Loads, jumps, the end of the feed, and reports about any request can follow each other in any
order, so many requests may be on their way at once, each at a stage of its own.  What a step can
do is said once for all of them (`step_apply`): it makes a request, or brings one further, or ends
the feed, or does nothing.

A cancelled request stays so, and nothing is done for it (`silent_run`).  All requests but the
newest are cancelled (`Orderly`), so whatever makes a new one, or ends the feed, silences those
before.

## Main definitions

* `HistoryOp.requests` — the requests that a series of operations makes; they are numbered in
  this order.
* `Step` — what a step can lead to.
* `Orderly` — the newest request alone can go on.

## Main statements

* `step_apply` — whatever happens is such a step.
* `silent_run` — nothing is done for a request that is cancelled.
* `silent_run_of_supersedes` — nor for one whose place is taken.
* `settling_run` — a jump asks for nothing before its time is over.
-/

namespace SnapshotViewer

/-! ## The requests of a run -/

namespace HistoryOp

/-- The request that an operation makes. -/
def request? : HistoryOp → Option HistoryRequest
  | load t => some (.load (HistoryFeed.loadQuery t))
  | jump t d => some (.jump (.near t d))
  | shutdown | receive .. => none

/-- The requests that are made, in order.  Behind the end no more are made. -/
def requests : List HistoryOp → List HistoryRequest
  | [] => []
  | shutdown :: _ => []
  | op :: ops => op.request?.toList ++ requests ops

/-- Whether an operation gives up what is on its way. -/
def supersedes : HistoryOp → Bool
  | load _ | jump .. | shutdown => true
  | receive .. => false

theorem requests_append_of_mem {xs : List HistoryOp} (h : shutdown ∈ xs) (ys : List HistoryOp) :
    requests (xs ++ ys) = requests xs := by
  induction xs with
  | nil => cases h
  | cons x xs ih =>
    cases x with
    | shutdown => rfl
    | _ =>
      have hxs : shutdown ∈ xs := by simpa using h
      simp [requests, ih hxs]

theorem requests_append_of_notMem {xs : List HistoryOp} (h : shutdown ∉ xs)
    (ys : List HistoryOp) : requests (xs ++ ys) = requests xs ++ requests ys := by
  induction xs with
  | nil => rfl
  | cons x xs ih =>
    cases x with
    | shutdown => simp at h
    | _ =>
      have hxs : shutdown ∉ xs := by simpa using h
      simp [requests, ih hxs]

theorem requests_one (op : HistoryOp) : requests [op] = op.request?.toList := by
  cases op <;> rfl

theorem requests_append_of_none {op : HistoryOp} (h : op.request? = none) (ops : List HistoryOp) :
    requests (ops ++ [op]) = requests ops := by
  by_cases hmem : shutdown ∈ ops
  · exact requests_append_of_mem hmem _
  · rw [requests_append_of_notMem hmem, requests_one, h]
    exact List.append_nil _

end HistoryOp

namespace HistoryFeed
variable {f g : HistoryFeed} {n m : Nat} {t : HistoryTask} {op : HistoryOp}
  {ops : List HistoryOp} {effects : List Effect}

theorem run_append (f : HistoryFeed) (xs ys : List HistoryOp) :
    f.run (xs ++ ys) = (((f.run xs).1.run ys).1, (f.run xs).2 ++ ((f.run xs).1.run ys).2) := by
  induction xs generalizing f with
  | nil => rfl
  | cons x xs ih => simp only [List.cons_append, run, ih, List.append_assoc]

/-! ## Cancelled requests -/

theorem isCancelled_of_stopped (h : f.stopped = true) (n : Nat) : f.isCancelled n = true := by
  simp [isCancelled, h]

theorem isCancelled_of_task (ht : f.tasks[n]? = some t) (h : t.cancelled = true) :
    f.isCancelled n = true := by
  simp [isCancelled, ht, h]

/-- A request that goes on. -/
theorem isCancelled_eq_false (ht : f.tasks[n]? = some t) :
    f.isCancelled n = false ↔ f.stopped = false ∧ t.cancelled = false := by
  simp [isCancelled, ht]

theorem length_tasksGivenUp (f : HistoryFeed) : f.tasksGivenUp.length = f.tasks.length := by
  unfold tasksGivenUp
  split
  · simp
  · rfl

/-- A request that a new one finds on its way stays there, at the most it is given up. -/
theorem exists_task_supersede (ht : f.tasks[n]? = some t) (r : HistoryRequest)
    (stage : HistoryStage) :
    ∃ u, (f.supersede r stage).tasks[n]? = some u ∧ (u = t ∨ u = t.cancel) := by
  have hn : n < f.tasksGivenUp.length := by
    rw [length_tasksGivenUp]
    exact (List.getElem?_eq_some_iff.1 ht).1
  simp only [supersede, List.getElem?_append_left hn]
  unfold tasksGivenUp
  split
  · next k _ =>
    by_cases hk : k = n
    · exact ⟨t.cancel, by simp [hk, ht], .inr rfl⟩
    · exact ⟨t, by simp [hk, ht], .inl rfl⟩
  · exact ⟨t, ht, .inl rfl⟩

/-- A cancelled request stays so when there is a new one. -/
theorem isCancelled_supersede (h : f.isCancelled n = true) (r : HistoryRequest)
    (stage : HistoryStage) : (f.supersede r stage).isCancelled n = true := by
  by_cases hs : f.stopped = true
  · exact isCancelled_of_stopped (f := f.supersede r stage) hs n
  · cases ht : f.tasks[n]? with
    | none => simp [isCancelled, hs, ht] at h
    | some t =>
      have hcancelled : t.cancelled = true := by simpa [isCancelled, hs, ht] using h
      obtain ⟨u, hu, rfl | rfl⟩ := exists_task_supersede ht r stage
      · exact isCancelled_of_task hu hcancelled
      · exact isCancelled_of_task hu rfl

/-- What a report leads to, if its request goes on. -/
theorem receive_of_task (ht : f.tasks[m]? = some t) (hgoes : f.isCancelled m = false)
    (s : Signal) : f.receive m s =
      ({ f with tasks := f.tasks.set m (t.receive m f.retryDelay s).1 },
        (t.receive m f.retryDelay s).2) := by
  simp [receive, ht, hgoes]

/-! ## Steps -/

/-- What something that happens can lead to. -/
inductive Step (f : HistoryFeed) : HistoryOp → HistoryFeed → List Effect → Prop
  /-- A new request takes the place of the one before; it tells nothing yet. -/
  | make {op : HistoryOp} {r : HistoryRequest} {stage : HistoryStage} {e : Effect}
    (hs : f.stopped = false) (hop : op.request? = some r) (he : e.request = f.tasks.length)
    (hquiet : Effect.tellers [e] = [])
    (hstands : HistoryTask.Stands r stage false (Effect.queriesBy f.tasks.length [e]) [] []) :
    Step f op (f.supersede r stage) [e]
  /-- Behind the end no requests are made. -/
  | refuse {op : HistoryOp} {r : HistoryRequest} (hs : f.stopped = true)
    (hop : op.request? = some r) : Step f op f []
  | finish : Step f .shutdown f.shutdown []
  /-- A report about a request that goes on. -/
  | report {m : Nat} {t : HistoryTask} (s : Signal) (ht : f.tasks[m]? = some t)
    (hgoes : f.isCancelled m = false) :
    Step f (.receive m s) { f with tasks := f.tasks.set m (t.receive m f.retryDelay s).1 }
      (t.receive m f.retryDelay s).2
  /-- A report that no request waits for. -/
  | pass {m : Nat} (s : Signal) (hsilent : ∀ t, f.tasks[m]? = some t → f.isCancelled m = true) :
    Step f (.receive m s) f []

theorem step_load (f : HistoryFeed) (q : Option Int) :
    Step f (.load q) (f.load q).1 (f.load q).2 := by
  unfold load
  split
  · next hs => exact .refuse hs rfl
  · next hs =>
    refine .make (by simpa using hs) rfl rfl rfl ?_
    simpa [Effect.query?, HistoryRequest.first] using
      HistoryTask.Stands.first (.load (loadQuery q)) false

theorem step_jump (f : HistoryFeed) (q : Int) (d : Option Direction) :
    Step f (.jump q d) (f.jump q d).1 (f.jump q d).2 := by
  unfold jump
  split
  · next hs => exact .refuse hs rfl
  · next hs =>
    refine .make (by simpa using hs) rfl rfl rfl ?_
    simpa [Effect.query?] using HistoryTask.Stands.settling (.near q d) false

theorem step_receive (f : HistoryFeed) (m : Nat) (s : Signal) :
    Step f (.receive m s) (f.receive m s).1 (f.receive m s).2 := by
  unfold receive
  split
  · next t ht =>
    split
    · next hcancelled => exact .pass s fun _ _ => hcancelled
    · next hgoes => exact .report s ht (by simpa using hgoes)
  · next hnone => exact .pass s fun t ht => by simp [hnone] at ht

/-- Whatever happens is such a step. -/
theorem step_apply (f : HistoryFeed) (op : HistoryOp) :
    Step f op (f.apply op).1 (f.apply op).2 := by
  cases op with
  | load q => exact step_load f q
  | jump q d => exact step_jump f q d
  | shutdown => exact .finish
  | receive m s => exact step_receive f m s

/-- Nothing is done for a cancelled request, and it stays cancelled. -/
theorem Step.silent (hstep : Step f op g effects) (h : f.isCancelled n = true) :
    g.isCancelled n = true ∧ ∀ e ∈ effects, e.request ≠ n := by
  cases hstep with
  | make hs hop he hquiet hstands =>
    have hne : f.tasks.length ≠ n := by
      rintro rfl
      simp [isCancelled, hs] at h
    exact ⟨isCancelled_supersede h _ _, by simpa [he] using hne⟩
  | refuse hs hop => exact ⟨h, by simp⟩
  | finish => exact ⟨isCancelled_of_stopped (f := f.shutdown) rfl n, by simp⟩
  | @report m t s ht hgoes =>
    have hne : m ≠ n := by
      rintro rfl
      rw [h] at hgoes
      cases hgoes
    refine ⟨?_, fun e he => by rw [HistoryTask.request_of_mem_receive he]; exact hne⟩
    simpa [isCancelled, List.getElem?_set_ne hne] using h
  | pass s hsilent => exact ⟨h, by simp⟩

theorem silent_run (h : f.isCancelled n = true) (ops : List HistoryOp) :
    ∀ e ∈ (f.run ops).2, e.request ≠ n := by
  induction ops generalizing f with
  | nil => simp [run]
  | cons op ops ih =>
    obtain ⟨hstill, hnow⟩ := (f.step_apply op).silent h
    intro e he
    rcases List.mem_append.1 he with he | he
    · exact hnow e he
    · exact ih hstill e he

/-! ## The newest request -/

/-- The newest request is known, and all others are cancelled. -/
structure Orderly (f : HistoryFeed) : Prop where
  newest : ∀ n, f.newest = some n ↔ f.stopped = false ∧ n + 1 = f.tasks.length
  older : ∀ n t, f.tasks[n]? = some t → n + 1 < f.tasks.length → t.cancelled = true

/-- To give up the newest request is to give up all. -/
theorem Orderly.tasksGivenUp_eq (h : Orderly f) (hs : f.stopped = false) :
    f.tasksGivenUp = f.tasks.map HistoryTask.cancel := by
  refine List.ext_getElem? fun n => ?_
  rw [List.getElem?_map]
  cases ht : f.tasks[n]? with
  | none =>
    have hn : f.tasks.length ≤ n := List.getElem?_eq_none_iff.1 ht
    rw [Option.map_none, List.getElem?_eq_none_iff, length_tasksGivenUp]
    exact hn
  | some t =>
    have hn : n < f.tasks.length := (List.getElem?_eq_some_iff.1 ht).1
    have hnewest : f.newest = some (f.tasks.length - 1) := (h.newest _).2 ⟨hs, by omega⟩
    by_cases hlast : n + 1 = f.tasks.length
    · have hn' : f.tasks.length - 1 = n := by omega
      simp [tasksGivenUp, hnewest, hn', ht]
    · have hn' : f.tasks.length - 1 ≠ n := by omega
      have hcancelled : t.cancelled = true := h.older n t ht (by omega)
      have hsame : t.cancel = t := by
        obtain ⟨request, stage, cancelled⟩ := t
        obtain rfl : cancelled = true := hcancelled
        rfl
      simp [tasksGivenUp, hnewest, hn', ht, hsame]

/-- What is on its way after a new request: the ones before, given up, and the new one. -/
theorem Orderly.task_of_supersede (h : Orderly f) (hs : f.stopped = false) {r : HistoryRequest}
    {stage : HistoryStage} (ht : (f.supersede r stage).tasks[n]? = some t) :
    (∃ u, f.tasks[n]? = some u ∧ t = u.cancel) ∨
      (n = f.tasks.length ∧ t = { request := r, stage }) := by
  simp only [supersede, h.tasksGivenUp_eq hs] at ht
  by_cases hn : n < f.tasks.length
  · rw [List.getElem?_append_left (by simpa using hn), List.getElem?_map,
      Option.map_eq_some_iff] at ht
    obtain ⟨u, hu, rfl⟩ := ht
    exact .inl ⟨u, hu, rfl⟩
  · have hlength : (f.tasks.map HistoryTask.cancel).length ≤ n := by simpa using hn
    rw [List.getElem?_append_right hlength, List.getElem?_singleton] at ht
    split at ht
    · next hzero =>
      rw [List.length_map] at hzero
      exact .inr ⟨by omega, (Option.some.inj ht).symm⟩
    · cases ht

theorem length_tasks_supersede (f : HistoryFeed) (r : HistoryRequest) (stage : HistoryStage) :
    (f.supersede r stage).tasks.length = f.tasks.length + 1 := by
  simp [supersede, length_tasksGivenUp]

theorem Orderly.supersede (h : Orderly f) (hs : f.stopped = false) (r : HistoryRequest)
    (stage : HistoryStage) : Orderly (f.supersede r stage) where
  newest n := by
    rw [length_tasks_supersede]
    have hstopped : (f.supersede r stage).stopped = false := hs
    simp only [hstopped, true_and]
    constructor
    · intro hnewest
      rw [Option.some.inj hnewest]
    · intro hn
      obtain rfl : n = f.tasks.length := by omega
      rfl
  older n t ht hn := by
    rw [length_tasks_supersede] at hn
    rcases h.task_of_supersede hs ht with ⟨u, -, rfl⟩ | ⟨rfl, -⟩
    · rfl
    · omega

theorem Orderly.shutdown (h : Orderly f) : Orderly f.shutdown where
  newest n := by simp [HistoryFeed.shutdown]
  older := h.older

/-- A request that goes on is the newest. -/
theorem Orderly.newest_of_goes (h : Orderly f) (ht : f.tasks[m]? = some t)
    (hgoes : t.cancelled = false) : m + 1 = f.tasks.length := by
  have hm : m < f.tasks.length := (List.getElem?_eq_some_iff.1 ht).1
  by_cases hlast : m + 1 < f.tasks.length
  · rw [h.older m t ht hlast] at hgoes
    cases hgoes
  · omega

/-- The newest request may change while the others stay as they are. -/
theorem Orderly.set (h : Orderly f) (hm : m + 1 = f.tasks.length) (t : HistoryTask) :
    Orderly { f with tasks := f.tasks.set m t } where
  newest n := by simpa using h.newest n
  older n u hu hn := by
    have hlength : n + 1 < f.tasks.length := by simpa using hn
    have hne : m ≠ n := by omega
    exact h.older n u (by simpa [List.getElem?_set_ne hne] using hu) hlength

/-! ## What gives up a request -/

/-- Nothing more is done for the requests so far, once there is a new one or the feed ends. -/
theorem Step.silent_of_supersedes (hstep : Step f op g effects) (h : Orderly f)
    (hop : op.supersedes = true) (hn : n < f.tasks.length) :
    g.isCancelled n = true ∧ ∀ e ∈ effects, e.request ≠ n := by
  cases hstep with
  | make hs hop he hquiet hstands =>
    have hne : f.tasks.length ≠ n := by omega
    refine ⟨isCancelled_of_task (t := f.tasks[n].cancel) ?_ rfl, by simpa [he] using hne⟩
    simp only [supersede, h.tasksGivenUp_eq hs]
    rw [List.getElem?_append_left (by simpa using hn), List.getElem?_map,
      List.getElem?_eq_getElem hn, Option.map_some]
  | refuse hs hop => exact ⟨isCancelled_of_stopped hs n, by simp⟩
  | finish => exact ⟨isCancelled_of_stopped (f := f.shutdown) rfl n, by simp⟩
  | report s ht hgoes => cases hop
  | pass s hsilent => cases hop

theorem silent_run_of_supersedes (h : Orderly f) (hop : op.supersedes = true)
    (hn : n < f.tasks.length) : ∀ e ∈ (f.run (op :: ops)).2, e.request ≠ n := by
  obtain ⟨hcancelled, hnow⟩ := (f.step_apply op).silent_of_supersedes h hop hn
  intro e he
  rcases List.mem_append.1 he with he | he
  · exact hnow e he
  · exact silent_run hcancelled ops e he

/-- As long as its time is not over, a jump asks for nothing. -/
theorem Step.settling (hstep : Step f op g effects) (ht : f.tasks[n]? = some t)
    (hstage : t.stage = .settling) (hop : op ≠ .receive n .due) :
    (∃ u, g.tasks[n]? = some u ∧ u.stage = .settling) ∧ Effect.queriesBy n effects = [] := by
  have hn : n < f.tasks.length := (List.getElem?_eq_some_iff.1 ht).1
  cases hstep with
  | make hs hop he hquiet hstands =>
    refine ⟨?_, Effect.queriesBy_eq_nil ?_⟩
    · obtain ⟨u, hu, rfl | rfl⟩ := exists_task_supersede ht _ _
      · exact ⟨_, hu, hstage⟩
      · exact ⟨_, hu, hstage⟩
    · have hne : f.tasks.length ≠ n := by omega
      simpa [he] using hne
  | refuse hs hop => exact ⟨⟨t, ht, hstage⟩, rfl⟩
  | finish => exact ⟨⟨t, ht, hstage⟩, rfl⟩
  | @report m u s hu hgoes =>
    by_cases hm : m = n
    · subst hm
      obtain rfl := Option.some.inj (ht.symm.trans hu)
      have hs : s ≠ .due := by
        rintro rfl
        exact hop rfl
      rw [HistoryTask.receive_of_settling hstage hs]
      exact ⟨⟨t, List.getElem?_set_self hn, hstage⟩, rfl⟩
    · refine ⟨⟨t, by simpa [List.getElem?_set_ne hm] using ht, hstage⟩, ?_⟩
      refine Effect.queriesBy_eq_nil fun e he => ?_
      rw [HistoryTask.request_of_mem_receive he]
      exact hm
  | pass s hsilent => exact ⟨⟨t, ht, hstage⟩, rfl⟩

theorem settling_run (ht : f.tasks[n]? = some t) (hstage : t.stage = .settling)
    (hops : .receive n .due ∉ ops) :
    n < (f.run ops).1.tasks.length ∧ Effect.queriesBy n (f.run ops).2 = [] := by
  induction ops generalizing f t with
  | nil => exact ⟨(List.getElem?_eq_some_iff.1 ht).1, rfl⟩
  | cons op ops ih =>
    rw [List.mem_cons, not_or] at hops
    obtain ⟨⟨u, hu, hsettling⟩, hnow⟩ := (f.step_apply op).settling ht hstage (Ne.symm hops.1)
    obtain ⟨hlength, hlater⟩ := ih hu hsettling hops.2
    refine ⟨hlength, ?_⟩
    rw [run, Effect.queriesBy_append, hnow, hlater]
    rfl

end HistoryFeed

end SnapshotViewer
