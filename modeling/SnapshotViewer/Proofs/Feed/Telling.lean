import SnapshotViewer.Feed.Attempt
import SnapshotViewer.Proofs.EventStream
import SnapshotViewer.Proofs.Feed.Live

/-!
# What reports make a subscription tell

Some reports put something into the hand of a subscription, and when its turn comes it tells that.
What it tells in the course of an attempt are the snapshots among the events of its bytes, and then
one error.

## Main definitions

* `Signal.news?`, `tellings`, `Attempt.events` — what a report puts into the hand of a subscription,
  and what reports, or a whole attempt, make it tell.
* `LiveOp.reports` — what is reported about a subscription in the course of a run.

## Main statements

* `Attempt.tellings_script` — what one attempt after the other makes a subscription tell.
-/

namespace SnapshotViewer

/-! ## What is to be told -/

/-- What a report puts into the hand of a subscription. -/
def Signal.news? : Signal → Option News
  | .connected (.error e) => some (.failure e)
  | .frame x => some (.frame x)
  | .closed error => some (.failure (error.getD streamClosed))
  | _ => none

/-- What reports make a subscription tell that has something in hand, or nothing. -/
def tellings : Option News → List Signal → List FeedEvent
  | _, [] => []
  | some news, .turn :: rest => news.event?.toList ++ tellings none rest
  | hand, s :: rest => tellings (s.news?.or hand) rest

theorem tellings_turn (news : News) (rest : List Signal) :
    tellings (some news) (.turn :: rest) = news.event?.toList ++ tellings none rest := rfl

theorem tellings_of_ne_turn {s : Signal} (hs : s ≠ .turn) (hand : Option News)
    (rest : List Signal) : tellings hand (s :: rest) = tellings (s.news?.or hand) rest := by
  cases s with
  | turn => exact absurd rfl hs
  | _ => cases hand <;> rfl

/-- A part of the reports makes a subscription tell a part. -/
theorem tellings_prefix (hand : Option News) (xs ys : List Signal) :
    tellings hand xs <+: tellings hand (xs ++ ys) := by
  induction xs generalizing hand with
  | nil =>
    rw [tellings]
    exact List.nil_prefix
  | cons s xs ih =>
    rw [List.cons_append]
    by_cases hs : s = .turn
    · subst hs
      cases hand with
      | none => exact ih none
      | some news => exact (List.prefix_append_right_inj _).2 (ih none)
    · rw [tellings_of_ne_turn hs, tellings_of_ne_turn hs]
      exact ih _

/-- The end of a rest makes nobody tell anything. -/
theorem tellings_concat_due (hand : Option News) (xs : List Signal) :
    tellings hand (xs ++ [.due]) = tellings hand xs := by
  induction xs generalizing hand with
  | nil => cases hand <;> rfl
  | cons s xs ih =>
    rw [List.cons_append]
    by_cases hs : s = .turn
    · subst hs
      cases hand with
      | none => exact ih none
      | some news => rw [tellings_turn, tellings_turn, ih]
    · rw [tellings_of_ne_turn hs, tellings_of_ne_turn hs, ih]

namespace Attempt

/-- What an attempt makes a subscription tell: the snapshots among its events, then one error.
The events are those of its own bytes, however they were cut. -/
def events : Attempt → List FeedEvent
  | .error e => [.transient e]
  | .ok b =>
    ((FrameDecoder.feed {} b.chunks.flatten).2.filterMap Frame.snapshot?).map .snapshot ++
      [.transient (b.error.getD streamClosed)]

theorem tellings_framed (frames : List Frame) (rest : List Signal) :
    tellings none (framed frames ++ rest) =
      (frames.filterMap Frame.snapshot?).map .snapshot ++ tellings none rest := by
  induction frames with
  | nil => rfl
  | cons x frames ih =>
    have hnews : tellings none (framed (x :: frames) ++ rest) =
        (News.frame x).event?.toList ++ tellings none (framed frames ++ rest) := rfl
    rw [hnews, ih]
    cases h : x.snapshot? with
    | none => simp [News.event?, h]
    | some s => simp [News.event?, h]

theorem tellings_signals (a : Attempt) (rest : List Signal) :
    tellings none (signals a ++ rest) = events a ++ tellings none rest := by
  cases a with
  | error e => rfl
  | ok b =>
    have hframes : b.frames = (FrameDecoder.feed {} b.chunks.flatten).2 := by
      rw [Body.frames, FrameDecoder.feedAll_eq_feed {} List.not_mem_nil]
    have hsignals : signals (.ok b) ++ rest =
        .connected (.ok ()) :: (framed b.frames ++ (.closed b.error :: .turn :: rest)) := by
      simp [signals]
    have hopen : ∀ later, tellings none (.connected (.ok ()) :: later) = tellings none later :=
      fun _ => rfl
    rw [hsignals, hopen, tellings_framed, hframes, events, List.append_assoc]
    rfl

theorem tellings_script (attempts : List Attempt) :
    tellings none (script attempts) = attempts.flatMap events := by
  induction attempts with
  | nil => rfl
  | cons a attempts ih =>
    have hcons : script (a :: attempts) = signals a ++ (.due :: script attempts) := by
      simp [script]
    have hdue : tellings none (.due :: script attempts) = tellings none (script attempts) := rfl
    rw [hcons, tellings_signals, hdue, ih, List.flatMap_cons]

end Attempt

/-! ## What happens to a subscription -/

namespace LiveOp

/-- What is reported about a subscription. -/
def report? (n : Nat) : LiveOp → Option Signal
  | receive m s => if m = n then some s else none
  | _ => none

/-- Everything that is reported about a subscription, in order. -/
def reports (n : Nat) (ops : List LiveOp) : List Signal := ops.filterMap (report? n)

/-- Reports and nothing else. -/
theorem reports_receive (n : Nat) (signals : List Signal) :
    reports n (signals.map (receive n)) = signals := by
  simp [reports, report?, List.filterMap_map, Function.comp_def]

/-- Whether the valve is shut or the listener leaves. -/
def obstructs : LiveOp → Bool
  | pause | deafen => true
  | _ => false

/-- Whether a subscription is cancelled by an operation. -/
def cancels : LiveOp → Bool
  | start | stop => true
  | _ => false

/-- Whether the valve stays open, the listener stays, and the subscription is left alone. -/
def harmless : LiveOp → Bool
  | resume | pass _ | receive .. => true
  | start | stop | pause | deafen => false

/-- Whether it is the turn of a subscription. -/
def isTurnOf (n : Nat) : LiveOp → Bool
  | receive m .turn => m = n
  | _ => false

theorem eq_of_isTurnOf {n m : Nat} {s : Signal} (h : (receive m s).isTurnOf n = true) :
    m = n ∧ s = .turn := by
  cases s with
  | turn => exact ⟨of_decide_eq_true h, rfl⟩
  | _ => cases h

end LiveOp

end SnapshotViewer
