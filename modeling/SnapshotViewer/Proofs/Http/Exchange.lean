import SnapshotViewer.Http.Exchange

/-!
# What a question leads to

The requests of one question follow the answers: each is where the answer to the one before leads
on to.  There are not many of them, and a question that is led on too often fails.  Who asks is
proved as long as all requests go to one place; from the first one that goes elsewhere on, nothing
is proved any more, not even to the place that was asked at first.

## Main definitions

* `asked`, `replied` — the requests of a question, and the last of them with its answer.
* `Ends` — what comes of the last request.
* `Followed` — the requests of a question, and what they lead to.

## Main statements

* `Followed.single`, `Followed.cons` — one step.
* `followed` — every question.
* `asked_eq` — a question whose answer leads no further is one request.
-/

namespace SnapshotViewer
variable {server : Server} {before sent : List Request} {r : Request} {left : Nat}
variable {result : Except ProviderError (Request × Option Answer)}

/-- The requests of a question; there is none unless the first one can be made. -/
def asked (server : Server) (before : List Request) (request : Except ProviderError Request) :
    List Request :=
  match request with
  | .error _ => []
  | .ok r => (follow server before r redirectLimit).1

/-- The last request of a question and its answer. -/
def replied (server : Server) (before : List Request) (request : Except ProviderError Request) :
    Except ProviderError (Request × Option Answer) := do
  let r ← request
  (follow server before r redirectLimit).2

/-- The requests so far and what the answer says. -/
theorem exchange_eq {α : Type} (server : Server) (before : List Request)
    (request : Except ProviderError Request)
    (read : Request → Option Answer → Except ProviderError α) :
    exchange server before request read =
      (before ++ asked server before request, do
        let (last, answer) ← replied server before request
        read last answer) := by
  cases request with
  | error e => simp [exchange, asked, replied, bind, Except.bind]
  | ok r => rfl

/-- What comes of the last request `p` of the requests `sent`. -/
inductive Ends (server : Server) (before : List Request) (left : Nat) (sent : List Request)
    (p : Request) : Except ProviderError (Request × Option Answer) → Prop where
  /-- The answer leads no further. -/
  | answered (h : (server (before ++ sent)).bind (Answer.onward? p) = none) :
    Ends server before left sent p (.ok (p, server (before ++ sent)))
  /-- It leads where nothing can be asked for. -/
  | unsuitable {e : ProviderError}
    (h : (server (before ++ sent)).bind (Answer.onward? p) = some (.error e))
    (hlength : sent.length ≤ left) : Ends server before left sent p (.error e)
  /-- It leads further than requests are followed. -/
  | astray {next : Except ProviderError Url}
    (h : (server (before ++ sent)).bind (Answer.onward? p) = some next)
    (hlength : sent.length = left + 1) : Ends server before left sent p (.error p.astray)

/-- The requests `sent` of a question that starts with `r`, and what they lead to. -/
structure Followed (server : Server) (before : List Request) (r : Request) (left : Nat)
    (sent : List Request) (result : Except ProviderError (Request × Option Answer)) : Prop where
  head : sent.head? = some r
  length_le : sent.length ≤ left + 1
  /-- Each request is where the answer to the one before leads on to. -/
  onward : ∀ front p q back, sent = front ++ p :: q :: back → ∃ a next,
    server (before ++ (front ++ [p])) = some a ∧ a.onward? p = some (.ok next) ∧
      q = p.redirected next
  ends : ∀ front p, sent = front ++ [p] → Ends server before left sent p result
  /-- While all requests have gone to one place, they prove the same. -/
  kept : ∀ front q back, sent = front ++ q :: back →
    (∀ p ∈ front ++ [q], p.url.place = r.url.place) → q.authorizations = r.authorizations
  /-- Once one has gone elsewhere, they prove nothing. -/
  dropped : ∀ front q back, sent = front ++ q :: back →
    ∀ p ∈ front ++ [q], p.url.place ≠ r.url.place → q.authorizations = []

/-- A request that was sent before may as well count as one of the question. -/
theorem Ends.cons {p : Request} (h : Ends server (before ++ [r]) left sent p result) :
    Ends server before (left + 1) (r :: sent) p result := by
  have hsent : before ++ [r] ++ sent = before ++ r :: sent := by simp
  cases h with
  | answered h =>
    rw [hsent] at h ⊢
    exact .answered h
  | unsuitable h hlength =>
    rw [hsent] at h
    exact .unsuitable h (Nat.succ_le_succ hlength)
  | astray h hlength =>
    rw [hsent] at h
    exact .astray h (congrArg Nat.succ hlength)

theorem eq_of_singleton_eq {q : Request} {front back : List Request}
    (h : [r] = front ++ q :: back) : front = [] ∧ q = r ∧ back = [] := by
  cases front <;> simp_all

/-- A request that is not led on. -/
theorem Followed.single (h : Ends server before left [r] r result) :
    Followed server before r left [r] result where
  head := rfl
  length_le := by simp
  onward front p q back hsent := by cases (eq_of_singleton_eq hsent).2.2
  ends front p hsent := by
    obtain ⟨rfl, rfl, -⟩ := eq_of_singleton_eq hsent
    exact h
  kept front q back hsent _ := by rw [(eq_of_singleton_eq hsent).2.1]
  dropped front q back hsent p hp helse := by
    obtain ⟨rfl, rfl, -⟩ := eq_of_singleton_eq hsent
    rw [List.nil_append, List.mem_singleton] at hp
    exact absurd (congrArg (·.url.place) hp) helse

namespace Followed
variable (h : Followed server before r left sent result)
include h

theorem mem_of_split {front back : List Request} {q : Request} (hsent : sent = front ++ q :: back) :
    r ∈ front ++ [q] := by
  have hhead := h.head
  rw [hsent] at hhead
  cases front <;> simp_all

/-- Whoever has proved nothing at first does not do so later. -/
theorem authorizations_eq_nil (hr : r.authorizations = []) {front back : List Request} {q : Request}
    (hsent : sent = front ++ q :: back) : q.authorizations = [] := by
  by_cases hplaces : ∀ p ∈ front ++ [q], p.url.place = r.url.place
  · rw [h.kept front q back hsent hplaces, hr]
  · simp only [Classical.not_forall] at hplaces
    obtain ⟨p, hp, helse⟩ := hplaces
    exact h.dropped front q back hsent p hp helse

end Followed

/-- A request that is led on to the first of other ones. -/
theorem Followed.cons {a : Answer} {next : Url} (ha : server (before ++ [r]) = some a)
    (hnext : a.onward? r = some (.ok next))
    (h : Followed server (before ++ [r]) (r.redirected next) left sent result) :
    Followed server before r (left + 1) (r :: sent) result where
  head := rfl
  length_le := by simpa using h.length_le
  onward front p q back hsent := by
    cases front with
    | nil =>
      obtain ⟨rfl, hrest⟩ := List.cons.inj hsent
      have hhead := h.head
      rw [hrest] at hhead
      exact ⟨a, next, ha, hnext, Option.some.inj hhead⟩
    | cons s front =>
      obtain ⟨rfl, hrest⟩ := List.cons.inj hsent
      simpa using h.onward front p q back hrest
  ends front p hsent := by
    cases front with
    | nil =>
      -- the first request is not the last one, because another one follows
      have hhead := h.head
      rw [(List.cons.inj hsent).2] at hhead
      cases hhead
    | cons s front =>
      obtain ⟨rfl, hrest⟩ := List.cons.inj hsent
      exact (h.ends front p hrest).cons
  kept front q back hsent hplaces := by
    cases front with
    | nil => rw [(List.cons.inj hsent).1]
    | cons s front =>
      obtain ⟨rfl, hrest⟩ := List.cons.inj hsent
      have hrest_places : ∀ p ∈ front ++ [q], p.url.place = r.url.place := fun p hp =>
        hplaces p (List.mem_cons_of_mem _ hp)
      have hnext_place : next.place = r.url.place := hrest_places _ (h.mem_of_split hrest)
      calc q.authorizations
        _ = (r.redirected next).authorizations :=
          h.kept front q back hrest fun p hp => (hrest_places p hp).trans hnext_place.symm
        _ = r.authorizations := if_pos hnext_place
  dropped front q back hsent p hp helse := by
    cases front with
    | nil =>
      obtain ⟨rfl, -⟩ := List.cons.inj hsent
      rw [List.nil_append, List.mem_singleton] at hp
      exact absurd (congrArg (·.url.place) hp) helse
    | cons s front =>
      obtain ⟨rfl, hrest⟩ := List.cons.inj hsent
      by_cases hnext_place : next.place = r.url.place
      · rcases List.mem_cons.1 hp with rfl | hp
        · exact absurd rfl helse
        · exact h.dropped front q back hrest p hp fun hp => helse (hp.trans hnext_place)
      · exact h.authorizations_eq_nil (if_neg hnext_place) hrest

/-! ## Following -/

theorem follow_of_answered (h : (server (before ++ [r])).bind (Answer.onward? r) = none) :
    follow server before r left = ([r], .ok (r, server (before ++ [r]))) := by
  rw [follow.eq_def]
  simp only [h]

theorem follow_of_unsuitable {e : ProviderError}
    (h : (server (before ++ [r])).bind (Answer.onward? r) = some (.error e)) :
    follow server before r (left + 1) = ([r], .error e) := by
  rw [follow.eq_def]
  simp only [h]

theorem follow_of_astray {next : Except ProviderError Url}
    (h : (server (before ++ [r])).bind (Answer.onward? r) = some next) :
    follow server before r 0 = ([r], .error r.astray) := by
  rw [follow.eq_def]
  simp only [h]

theorem follow_of_onward {next : Url}
    (h : (server (before ++ [r])).bind (Answer.onward? r) = some (.ok next)) :
    follow server before r (left + 1) =
      (r :: (follow server (before ++ [r]) (r.redirected next) left).1,
        (follow server (before ++ [r]) (r.redirected next) left).2) := by
  rw [follow.eq_def]
  simp only [h]

/-- Every question is followed where the answers lead. -/
theorem followed (server : Server) (before : List Request) (r : Request) (left : Nat) :
    Followed server before r left (follow server before r left).1
      (follow server before r left).2 := by
  induction left generalizing before r with
  | zero =>
    cases hnext : (server (before ++ [r])).bind (Answer.onward? r) with
    | none =>
      rw [follow_of_answered hnext]
      exact .single (.answered hnext)
    | some next =>
      rw [follow_of_astray hnext]
      exact .single (.astray hnext rfl)
  | succ left ih =>
    match hnext : (server (before ++ [r])).bind (Answer.onward? r) with
    | none =>
      rw [follow_of_answered hnext]
      exact .single (.answered hnext)
    | some (.error e) =>
      rw [follow_of_unsuitable hnext]
      exact .single (.unsuitable hnext (Nat.le_add_left ..))
    | some (.ok next) =>
      rw [follow_of_onward hnext]
      obtain ⟨a, ha, honward⟩ := Option.bind_eq_some_iff.1 hnext
      exact .cons ha honward (ih (before ++ [r]) (r.redirected next))

/-- A question whose answer leads no further is one request. -/
theorem asked_eq (server : Server) (before : List Request) (request : Except ProviderError Request)
    (h : ∀ r, request = .ok r → (server (before ++ [r])).bind (Answer.onward? r) = none) :
    asked server before request = request.toOption.toList := by
  cases request with
  | error e => rfl
  | ok r =>
    rw [asked, follow_of_answered (h r rfl)]
    rfl

/-- Another server is not told who asks, and neither is the first one when it is asked again. -/
example :
    let answer (location : String) : Option Answer := some { status := 302, chunks := [], location }
    let server : Server := fun
      | [_] => answer "/v2"
      | [_, _] => answer "http://other/v2"
      | [_, _, _] => answer "http://host/v3"
      | _ => none
    let r : Request := { url := { scheme := "http", host := "host" }, authorizations := ["Basic"] }
    ((follow server [] r redirectLimit).1.map fun r => (r.url.host, r.authorization)) =
      [("host", some "Basic"), ("host", some "Basic"), ("other", none), ("host", none)] := by
  decide +kernel

end SnapshotViewer
