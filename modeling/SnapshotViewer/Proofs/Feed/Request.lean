import SnapshotViewer.Feed.History

/-!
# The course of one request

What a feed wants done names a request.  This module reads off a list of such effects what one
request has to do with it, and follows a single request of a history on its way: at each stage it
is known what it has asked the server for, which answers it has taken up, and what it has told the
listener (`HistoryTask.Stands`).

## Main definitions

* `Effect.request`, `Effect.toldBy`, `Effect.queriesBy` — the part of one request.
* `HistoryTask.takes?` — the answer that a request takes up.
* `HistoryTask.conclusion` — what the answers come to.
* `HistoryTask.Stands` — how far a request has come, and what it has done on its way.

## Main statements

* `stands_receive` — a report brings a request from one such standing to another.
-/

namespace SnapshotViewer

/-! ## The part of one request -/

namespace Effect

/-- The request that something is to be done for. -/
def request : Effect → Nat
  | send n _ | sleep n _ | fetch n _ | connect n | close n | yield n => n

/-- What a request tells the listener. -/
def told? (n : Nat) : Effect → Option FeedEvent
  | send m e => if m = n then some e else none
  | _ => none

/-- What a request asks the server for. -/
def query? (n : Nat) : Effect → Option Query
  | fetch m q => if m = n then some q else none
  | _ => none

/-- Everything that a request tells the listener, in order. -/
def toldBy (n : Nat) (effects : List Effect) : List FeedEvent := effects.filterMap (told? n)

/-- Everything that a request asks the server for, in order. -/
def queriesBy (n : Nat) (effects : List Effect) : List Query := effects.filterMap (query? n)

/-- The requests that tell the listener something, in the order in which they do. -/
def tellers (effects : List Effect) : List Nat :=
  effects.filterMap fun
    | send n _ => some n
    | _ => none

variable {n : Nat} {effects : List Effect}

@[simp] theorem toldBy_nil (n : Nat) : toldBy n [] = [] := rfl

@[simp] theorem queriesBy_nil (n : Nat) : queriesBy n [] = [] := rfl

@[simp] theorem toldBy_cons (n : Nat) (e : Effect) (effects : List Effect) :
    toldBy n (e :: effects) = (told? n e).toList ++ toldBy n effects := by
  cases h : told? n e with
  | none => rw [toldBy, List.filterMap_cons_none h]; rfl
  | some x => rw [toldBy, List.filterMap_cons_some h]; rfl

@[simp] theorem queriesBy_cons (n : Nat) (e : Effect) (effects : List Effect) :
    queriesBy n (e :: effects) = (query? n e).toList ++ queriesBy n effects := by
  cases h : query? n e with
  | none => rw [queriesBy, List.filterMap_cons_none h]; rfl
  | some q => rw [queriesBy, List.filterMap_cons_some h]; rfl

theorem toldBy_append (n : Nat) (xs ys : List Effect) :
    toldBy n (xs ++ ys) = toldBy n xs ++ toldBy n ys := List.filterMap_append

theorem queriesBy_append (n : Nat) (xs ys : List Effect) :
    queriesBy n (xs ++ ys) = queriesBy n xs ++ queriesBy n ys := List.filterMap_append

theorem tellers_append (xs ys : List Effect) : tellers (xs ++ ys) = tellers xs ++ tellers ys :=
  List.filterMap_append

theorem toldBy_eq_nil (h : ∀ e ∈ effects, e.request ≠ n) : toldBy n effects = [] := by
  refine List.filterMap_eq_nil_iff.2 fun e he => ?_
  have hne := h e he
  cases e with
  | send m e => simpa [told?, request] using hne
  | _ => rfl

theorem queriesBy_eq_nil (h : ∀ e ∈ effects, e.request ≠ n) : queriesBy n effects = [] := by
  refine List.filterMap_eq_nil_iff.2 fun e he => ?_
  have hne := h e he
  cases e with
  | fetch m q => simpa [query?, request] using hne
  | _ => rfl

/-- Whoever is among the tellers has told something. -/
theorem mem_tellers : n ∈ tellers effects ↔ toldBy n effects ≠ [] := by
  induction effects with
  | nil => simp [tellers]
  | cons e effects ih =>
    cases e with
    | send m event =>
      by_cases hm : m = n
      · simp [tellers, toldBy, told?, hm]
      · simpa [tellers, toldBy, told?, hm, Ne.symm hm] using ih
    | _ => simpa [tellers, toldBy, told?] using ih

theorem toldBy_of_notMem (h : n ∉ tellers effects) : toldBy n effects = [] :=
  Decidable.byContradiction fun hne => h (mem_tellers.2 hne)

theorem exists_request_of_mem_tellers (h : n ∈ tellers effects) : ∃ e ∈ effects, e.request = n := by
  obtain ⟨e, he, htold⟩ := List.mem_filterMap.1 h
  cases e with
  | send m event => exact ⟨_, he, Option.some.inj htold⟩
  | _ => cases htold

end Effect

/-! ## One request of a history -/

/-- What the server answers when it is asked for a snapshot. -/
abbrev FetchResult := Except ProviderError Snapshot

namespace HistoryTask

/-- The answer that a request takes up: it has to be waiting for one. -/
def takes? (t : HistoryTask) : Signal → Option FetchResult
  | .fetched answer =>
    match t.stage with
    | .firstFetch | .secondFetch => some answer
    | .settling | .resting => none
  | _ => none

/-- What the answers to a request come to: the first snapshot among the first two of them, and
else the second error. -/
def conclusion : List FetchResult → Option FeedEvent
  | .ok s :: _ => some (.snapshot s)
  | .error _ :: .ok s :: _ => some (.snapshot s)
  | .error _ :: .error e :: _ => some (.failed e)
  | _ => none

/-- How far a request has come, whether it is cancelled, and what it has done on its way: what it
has asked for, which answers it has taken up, and what it has told the listener. -/
inductive Stands : HistoryRequest → HistoryStage → Bool → List Query → List FetchResult →
    List FeedEvent → Prop
  | settling (q : Query) (c : Bool) : Stands (.jump q) .settling c [] [] []
  | first (r : HistoryRequest) (c : Bool) : Stands r .firstFetch c [r.first] [] []
  | found (r : HistoryRequest) (s : Snapshot) :
    Stands r .firstFetch true [r.first] [.ok s] [.snapshot s]
  | resting (q : Query) (c : Bool) (e : ProviderError) :
    Stands (.load q) .resting c [q] [.error e] []
  | second (r : HistoryRequest) (c : Bool) (e : ProviderError) :
    Stands r .secondFetch c [r.first, r.second] [.error e] []
  | foundLater (r : HistoryRequest) (e : ProviderError) (s : Snapshot) :
    Stands r .secondFetch true [r.first, r.second] [.error e, .ok s] [.snapshot s]
  | failed (r : HistoryRequest) (e f : ProviderError) :
    Stands r .secondFetch true [r.first, r.second] [.error e, .error f] [.failed f]

namespace Stands
variable {r : HistoryRequest} {stage : HistoryStage} {c : Bool} {queries : List Query}
  {answers : List FetchResult} {events : List FeedEvent}

/-- A request may be given up wherever it stands. -/
theorem cancel (h : Stands r stage c queries answers events) :
    Stands r stage true queries answers events := by
  cases h with
  | settling q c => exact .settling q true
  | first r c => exact .first r true
  | found r s => exact .found r s
  | resting q c e => exact .resting q true e
  | second r c e => exact .second r true e
  | foundLater r e s => exact .foundLater r e s
  | failed r e f => exact .failed r e f

/-- What a request has told is what the answers come to. -/
theorem events_eq (h : Stands r stage c queries answers events) :
    events = (conclusion answers).toList := by
  cases h <;> rfl

/-- A request that goes on has told nothing yet. -/
theorem events_of_uncancelled (h : Stands r stage false queries answers events) : events = [] := by
  cases h <;> rfl

/-- At most two things are asked for. -/
theorem queries_prefix (h : Stands r stage c queries answers events) :
    queries <+: [r.first, r.second] := by
  cases h <;> simp [HistoryRequest.first]

/-- Each answer is one to what was asked for. -/
theorem length_answers_le (h : Stands r stage c queries answers events) :
    answers.length ≤ queries.length := by
  cases h <;> simp

/-- The second thing is asked for only when the first fetch has failed. -/
theorem head_answers (h : Stands r stage c queries answers events) (hlength : queries.length = 2) :
    ∃ e, answers.head? = some (.error e) := by
  cases h <;> simp_all

/-- The first load asks at once. -/
theorem queries_ne_nil (h : Stands r stage c queries answers events) {q : Query}
    (hr : r = .load q) : queries ≠ [] := by
  subst hr
  cases h <;> simp

/-- A jump asks for the second thing at once when the first fetch has failed. -/
theorem length_queries (h : Stands r stage c queries answers events) {q : Query}
    {e : ProviderError} (hr : r = .jump q) (hanswers : answers = [.error e]) :
    queries.length = 2 := by
  subst hr
  cases h <;> simp_all

end Stands

variable {t : HistoryTask} {queries : List Query} {answers : List FetchResult}
  {events : List FeedEvent}

/-- A report leaves a request as it is, or brings it to a stage with something to be done there,
or makes it tell something and ends it. -/
theorem receive_cases (t : HistoryTask) (n delay : Nat) (s : Signal) :
    t.receive n delay s = (t, []) ∨
      (∃ stage e, t.receive n delay s = t.enter stage e ∧ e.request = n ∧
        Effect.tellers [e] = []) ∨
      ∃ event, t.receive n delay s = t.finish n event := by
  unfold receive
  split
  · exact .inr (.inl ⟨_, _, rfl, rfl, rfl⟩)
  · exact .inr (.inl ⟨_, _, rfl, rfl, rfl⟩)
  · exact .inr (.inr ⟨_, rfl⟩)
  · exact .inr (.inr ⟨_, rfl⟩)
  · split
    · exact .inr (.inl ⟨_, _, rfl, rfl, rfl⟩)
    · exact .inr (.inl ⟨_, _, rfl, rfl, rfl⟩)
  · exact .inr (.inr ⟨_, rfl⟩)
  · exact .inl rfl

/-- What a request wants done is done for it. -/
theorem request_of_mem_receive {n delay : Nat} {s : Signal} {e : Effect}
    (h : e ∈ (t.receive n delay s).2) : e.request = n := by
  rcases t.receive_cases n delay s with heq | ⟨stage, x, heq, hx, -⟩ | ⟨event, heq⟩
  · rw [heq] at h
    cases h
  · rw [heq] at h
    rw [List.mem_singleton.1 h, hx]
  · rw [heq] at h
    rw [List.mem_singleton.1 h, Effect.request]

/-- A request stays what it is. -/
@[simp] theorem request_receive (t : HistoryTask) (n delay : Nat) (s : Signal) :
    (t.receive n delay s).1.request = t.request := by
  rcases t.receive_cases n delay s with heq | ⟨stage, x, heq, -⟩ | ⟨event, heq⟩
  · rw [heq]
  · rw [heq, enter]
  · rw [heq, finish, cancel]

/-- A report makes a request tell something once at most. -/
theorem tellers_receive (t : HistoryTask) (n delay : Nat) (s : Signal) :
    Effect.tellers (t.receive n delay s).2 = [] ∨ Effect.tellers (t.receive n delay s).2 = [n] := by
  rcases t.receive_cases n delay s with heq | ⟨stage, x, heq, -, hquiet⟩ | ⟨event, heq⟩
  · exact .inl (by rw [heq]; rfl)
  · exact .inl (by rw [heq]; exact hquiet)
  · exact .inr (by rw [heq]; rfl)

/-- A request that a report brings to its end tells something. -/
theorem toldBy_of_cancelled {n delay : Nat} {s : Signal} (hgoes : t.cancelled = false)
    (h : (t.receive n delay s).1.cancelled = true) :
    Effect.toldBy n (t.receive n delay s).2 ≠ [] := by
  rcases t.receive_cases n delay s with heq | ⟨stage, x, heq, -⟩ | ⟨event, heq⟩
  · rw [heq, hgoes] at h
    cases h
  · rw [heq, enter, hgoes] at h
    cases h
  · rw [heq, finish]
    simp [Effect.told?]

/-- A jump that waits for further ones heeds its time alone. -/
theorem receive_of_settling {s : Signal} (h : t.stage = .settling) (hs : s ≠ .due)
    (n delay : Nat) : t.receive n delay s = (t, []) := by
  unfold receive
  rw [h]
  cases s with
  | due => exact absurd rfl hs
  | _ => rfl

/-- A report brings a request that goes on from one standing to another. -/
theorem stands_receive (h : Stands t.request t.stage t.cancelled queries answers events)
    (hgoes : t.cancelled = false) (n delay : Nat) (s : Signal) :
    Stands (t.receive n delay s).1.request (t.receive n delay s).1.stage
      (t.receive n delay s).1.cancelled
      (queries ++ Effect.queriesBy n (t.receive n delay s).2)
      (answers ++ (t.takes? s).toList) (events ++ Effect.toldBy n (t.receive n delay s).2) := by
  obtain ⟨request, stage, cancelled⟩ := t
  obtain rfl : cancelled = false := hgoes
  cases h with
  | settling q c =>
    cases s with
    | due =>
      simpa [receive, enter, takes?, Effect.told?, Effect.query?] using
        Stands.first (.jump q) false
    | _ => exact Stands.settling q false
  | first r c =>
    cases s with
    | fetched answer =>
      cases answer with
      | ok s =>
        simpa [receive, finish, cancel, takes?, Effect.told?, Effect.query?] using
          Stands.found request s
      | error e =>
        cases request with
        | load q =>
          simpa [receive, enter, takes?, Effect.told?, Effect.query?, HistoryRequest.first] using
            Stands.resting q false e
        | jump q =>
          simpa [receive, enter, takes?, Effect.told?, Effect.query?] using
            Stands.second (.jump q) false e
    | _ => exact Stands.first request false
  | resting q c e =>
    cases s with
    | due =>
      simpa [receive, enter, takes?, Effect.told?, Effect.query?, HistoryRequest.first] using
        Stands.second (.load q) false e
    | _ => exact Stands.resting q false e
  | second r c e =>
    cases s with
    | fetched answer =>
      cases answer with
      | ok s =>
        simpa [receive, finish, cancel, takes?, Effect.told?, Effect.query?] using
          Stands.foundLater request e s
      | error f =>
        simpa [receive, finish, cancel, takes?, Effect.told?, Effect.query?] using
          Stands.failed request e f
    | _ => exact Stands.second request false e

/-- When its time is over, a request that goes on has asked for more than it was answered. -/
theorem length_answers_lt (h : Stands t.request t.stage t.cancelled queries answers events)
    (hgoes : t.cancelled = false) (n delay : Nat) :
    answers.length < (queries ++ Effect.queriesBy n (t.receive n delay .due).2).length := by
  obtain ⟨request, stage, cancelled⟩ := t
  obtain rfl : cancelled = false := hgoes
  cases h with
  | settling q c => simp [receive, enter, Effect.query?]
  | first r c => simp
  | resting q c e => simp [receive, enter, Effect.query?]
  | second r c e => simp

end HistoryTask

end SnapshotViewer
