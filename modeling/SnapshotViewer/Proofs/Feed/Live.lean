import SnapshotViewer.Viewer.Client

/-!
# What comes in at a live feed

When it is the turn of a subscription, it tells what it has in hand, and a snapshot has to pass the
valve first.  Every other report leaves the valve alone and makes nobody tell anything.  `reaction`
says this once for all reports.

## Main definitions

* `Effect.Quiet` — nobody is told anything.
* `Reaction` — what a report can lead to.

## Main statements

* `reaction` — every report leads to such a reaction.
* `receive_of_arrival`, `receive_of_none` — a report that brings a snapshot to the valve, or none.
-/

namespace SnapshotViewer

namespace Effect

@[simp] theorem events_nil : events [] = [] := rfl

@[simp] theorem events_send (n : Nat) (e : FeedEvent) (effects : List Effect) :
    events (.send n e :: effects) = e :: events effects := rfl

theorem events_append (xs ys : List Effect) : events (xs ++ ys) = events xs ++ events ys :=
  List.filterMap_append

/-- Effects that tell nobody anything. -/
def Quiet (effects : List Effect) : Prop := ∀ n e, .send n e ∉ effects

theorem quiet_nil : Quiet [] := fun _ _ => List.not_mem_nil

theorem Quiet.append {xs ys : List Effect} (hx : Quiet xs) (hy : Quiet ys) : Quiet (xs ++ ys) :=
  fun n e h => (List.mem_append.1 h).elim (hx n e) (hy n e)

theorem events_of_quiet {effects : List Effect} (h : Quiet effects) : events effects = [] := by
  refine List.filterMap_eq_nil_iff.2 fun x hx => ?_
  cases x with
  | send n e => exact absurd hx (h n e)
  | _ => rfl

end Effect

namespace Valve
variable (v : Valve) (s : Snapshot)

theorem pass_of_paused (h : v.paused = true) : v.pass s = ({ v with held := some s }, none) := by
  simp [pass, h]

theorem pass_of_open (h : v.paused = false) : v.pass s = (v, some s) := by simp [pass, h]

@[simp] theorem paused_pass : (v.pass s).1.paused = v.paused := by
  unfold pass
  split
  · rfl
  · rfl

end Valve

namespace LiveFeed
variable (f : LiveFeed) {n : Nat} {signal : Signal} {s : Snapshot} {news : News}

theorem quiet_closing (g : LiveFeed) : Effect.Quiet (f.closing g) := by
  intro n e h
  obtain ⟨m, -, heq⟩ := List.mem_map.1 h
  cases heq

theorem events_stop : Effect.events f.stop.2 = [] := Effect.events_of_quiet (quiet_closing f _)

/-! ## What a report leads to -/

/-- A snapshot has to pass the valve; everything else is let through. -/
theorem letThrough_of_snapshot (h : news.snapshot? = some s) : f.letThrough news =
    ({ f with valve := (f.valve.pass s).1 }, (f.valve.pass s).2.map .snapshot) := by
  rw [letThrough, h]
  rfl

theorem letThrough_of_none (h : news.snapshot? = none) : f.letThrough news = (f, news.event?) := by
  rw [letThrough, h]

/-- Only the valve is touched. -/
theorem letThrough_eq (f : LiveFeed) (news : News) :
    (f.letThrough news).1 = { f with valve := (f.letThrough news).1.valve } := by
  cases h : news.snapshot? with
  | some s => rw [letThrough_of_snapshot f h]
  | none => rw [letThrough_of_none f h]

/-- While the valve is open everything is let through. -/
theorem letThrough_of_open (hopen : f.valve.paused = false) (news : News) :
    f.letThrough news = (f, news.event?) := by
  cases h : news.snapshot? with
  | none => exact letThrough_of_none f h
  | some s =>
    rw [letThrough_of_snapshot f h, f.valve.pass_of_open s hopen]
    cases news with
    | frame x => simp [News.event?, show x.snapshot? = some s from h]
    | failure e => cases h

/-- The valve is shut and opened by the user only. -/
theorem paused_letThrough (f : LiveFeed) (news : News) :
    (f.letThrough news).1.valve.paused = f.valve.paused := by
  cases h : news.snapshot? with
  | none => rw [letThrough_of_none f h]
  | some s => rw [letThrough_of_snapshot f h, Valve.paused_pass]

/-- What no report changes. -/
structure Settled (f g : LiveFeed) : Prop where
  issued : g.issued = f.issued
  subscribed : g.subscribed = f.subscribed
  listening : g.listening = f.listening

/-- What a report about a subscription can lead to. -/
inductive Reaction (f : LiveFeed) (n : Nat) : Signal → LiveFeed → List Effect → Prop
  /-- Nobody is told anything. -/
  | silent {signal : Signal} {g : LiveFeed} {effects : List Effect}
    (hhand : signal = .turn → f.inHand? n = none) (hsettled : Settled f g)
    (hvalve : g.valve = f.valve) (hquiet : Effect.Quiet effects) : Reaction f n signal g effects
  /-- The subscription tells what it has in hand, if that is let through. -/
  | told {news : News} {g : LiveFeed} {rest : List Effect} (hhand : f.inHand? n = some news)
    (hsettled : Settled f g) (hvalve : g.valve = (f.letThrough news).1.valve)
    (hquiet : Effect.Quiet rest) : Reaction f n .turn g (f.say n (f.letThrough news).2 ++ rest)

/-- What is said is what was let through, or nothing at all when nobody listens. -/
theorem events_say (f : LiveFeed) (n : Nat) (e? : Option FeedEvent) {rest : List Effect}
    (hrest : Effect.Quiet rest) : (Effect.events (f.say n e? ++ rest)).Sublist e?.toList := by
  rw [Effect.events_append, Effect.events_of_quiet hrest, List.append_nil]
  unfold say
  split
  · cases e? with
    | none => exact List.Sublist.refl []
    | some e => exact List.Sublist.refl [e]
  · exact List.nil_sublist _

/-- Events of which none is a snapshot. -/
def Plain (events : List FeedEvent) : Prop := ∀ s, .snapshot s ∉ events

theorem plain_nil : Plain [] := fun _ => List.not_mem_nil

namespace Reaction
variable {f} {g : LiveFeed} {effects : List Effect} (h : Reaction f n signal g effects)
include h

theorem append {more : List Effect} (hmore : Effect.Quiet more) :
    Reaction f n signal g (effects ++ more) := by
  cases h with
  | silent hhand hsettled hvalve hquiet =>
    exact .silent hhand hsettled hvalve (hquiet.append hmore)
  | told hhand hsettled hvalve hquiet =>
    rw [List.append_assoc]
    exact .told hhand hsettled hvalve (hquiet.append hmore)

theorem settled : Settled f g := by
  cases h with
  | silent _ hsettled => exact hsettled
  | told _ hsettled => exact hsettled

theorem paused : g.valve.paused = f.valve.paused := by
  cases h with
  | silent _ _ hvalve => exact congrArg Valve.paused hvalve
  | told _ _ hvalve => exact (congrArg Valve.paused hvalve).trans (f.paused_letThrough _)

/-- Nobody is told anything unless it is the turn of a subscription. -/
theorem quiet (hsignal : signal ≠ .turn) : Effect.Quiet effects := by
  cases h with
  | silent _ _ _ hquiet => exact hquiet
  | told => exact absurd rfl hsignal

/-- A snapshot in hand goes through the valve, and what passes is sent, or nothing at all when
nobody listens. -/
theorem of_snapshot (hsignal : signal = .turn) (hhand : f.inHand? n = some news)
    (hs : news.snapshot? = some s) :
    g.valve = (f.valve.pass s).1 ∧
      (Effect.events effects).Sublist ((f.valve.pass s).2.toList.map .snapshot) := by
  cases h with
  | silent hnone => simp [hnone hsignal] at hhand
  | @told news' _ rest hhand' _ hvalve hquiet =>
    obtain rfl : news = news' := Option.some.inj (hhand.symm.trans hhand')
    rw [letThrough_of_snapshot f hs] at hvalve ⊢
    refine ⟨hvalve, ?_⟩
    rw [← Option.toList_map]
    exact f.events_say n _ hquiet

/-- Without one the valve is left alone and no snapshot is sent. -/
theorem of_no_snapshot
    (hnone : ∀ news, signal = .turn → f.inHand? n = some news → news.snapshot? = none) :
    g.valve = f.valve ∧ Plain (Effect.events effects) := by
  cases h with
  | silent _ _ hvalve hquiet =>
    refine ⟨hvalve, ?_⟩
    rw [Effect.events_of_quiet hquiet]
    exact plain_nil
  | @told news _ rest hhand _ hvalve hquiet =>
    have hs := hnone news rfl hhand
    rw [letThrough_of_none f hs] at hvalve ⊢
    refine ⟨hvalve, fun s hmem => ?_⟩
    have hevent := (f.events_say n news.event? hquiet).subset hmem
    cases news with
    | frame x => simp_all [News.event?, News.snapshot?]
    | failure e => simp [News.event?] at hevent

end Reaction

theorem say_letThrough (f : LiveFeed) (news : News) (n : Nat) (e? : Option FeedEvent) :
    (f.letThrough news).1.say n e? = f.say n e? := by
  rw [letThrough_eq]
  rfl

theorem reaction_tell (hhand : f.inHand? f.issued = some news) :
    Reaction f f.issued .turn (f.tell news).1 (f.tell news).2 := by
  have hthrough := f.letThrough_eq news
  have hissued : (f.letThrough news).1.issued = f.issued := by rw [hthrough]
  have hsettled : ∀ stage, Settled f { (f.letThrough news).1 with stage } := by
    intro stage
    rw [hthrough]
    exact ⟨rfl, rfl, rfl⟩
  have hsay : (f.letThrough news).1.say (f.letThrough news).1.issued (f.letThrough news).2 =
      f.say f.issued (f.letThrough news).2 := by rw [say_letThrough, hissued]
  unfold tell
  dsimp only
  split
  · next hdeaf =>
    -- nobody is there to be told
    have hlistening : f.listening = false := by
      rw [hthrough] at hdeaf
      simpa using (Bool.and_eq_true_iff.1 hdeaf).2
    have hnothing : f.say f.issued (f.letThrough news).2 ++ [] = [] := by simp [say, hlistening]
    rw [← hnothing]
    exact .told hhand (hsettled none) rfl Effect.quiet_nil
  · split
    · rw [hsay, ← List.append_nil (f.say _ _)]
      exact .told hhand (hsettled _) rfl Effect.quiet_nil
    · rw [hsay]
      exact .told hhand (hsettled _) rfl (by simp [Effect.Quiet])

theorem reaction_tellLate (hhand : f.inHand? n = some news) :
    Reaction f n .turn (f.tellLate n news).1 (f.tellLate n news).2 := by
  have hsettled : Settled f (f.tellLate n news).1 := by
    unfold tellLate
    dsimp only
    rw [letThrough_eq]
    exact ⟨rfl, rfl, rfl⟩
  have htold : (f.tellLate n news).2 = f.say n (f.letThrough news).2 ++ [] := by
    rw [List.append_nil]
    exact f.say_letThrough news n _
  rw [htold]
  exact .told hhand hsettled rfl Effect.quiet_nil

theorem reaction_receiveCurrent (stage : StreamStage) (hsignal : signal ≠ .turn) :
    Reaction f n signal (f.receiveCurrent stage signal).1 (f.receiveCurrent stage signal).2 := by
  have hhand : signal = .turn → f.inHand? n = none := fun h => absurd h hsignal
  unfold receiveCurrent
  split
  · exact .silent hhand ⟨rfl, rfl, rfl⟩ rfl Effect.quiet_nil
  · exact .silent hhand ⟨rfl, rfl, rfl⟩ rfl (by simp [Effect.Quiet, take])
  · exact .silent hhand ⟨rfl, rfl, rfl⟩ rfl (by simp [Effect.Quiet, take])
  · exact .silent hhand ⟨rfl, rfl, rfl⟩ rfl (by simp [Effect.Quiet, take])
  · exact .silent hhand ⟨rfl, rfl, rfl⟩ rfl (by simp [Effect.Quiet])
  · exact .silent hhand ⟨rfl, rfl, rfl⟩ rfl Effect.quiet_nil

theorem reaction_goOn (f : LiveFeed) (n : Nat) :
    Reaction f n .turn (f.goOn n).1 (f.goOn n).2 := by
  unfold goOn
  cases hhand : f.inHand? n with
  | none => exact .silent (fun _ => hhand) ⟨rfl, rfl, rfl⟩ rfl Effect.quiet_nil
  | some news =>
    dsimp only
    split
    · next hnewest =>
      obtain ⟨-, rfl⟩ := hnewest
      exact f.reaction_tell hhand
    · exact f.reaction_tellLate hhand

theorem reaction_react (f : LiveFeed) (n : Nat) (signal : Signal) :
    Reaction f n signal (f.react n signal).1 (f.react n signal).2 := by
  unfold react
  split
  · exact f.reaction_goOn n
  · next hsignal =>
    have hsilent : Reaction f n signal f [] :=
      .silent (fun h => absurd h hsignal) ⟨rfl, rfl, rfl⟩ rfl Effect.quiet_nil
    split
    · split
      · exact f.reaction_receiveCurrent _ hsignal
      · exact hsilent
    · exact hsilent

/-- Every report leads to a reaction. -/
theorem reaction (f : LiveFeed) (n : Nat) (signal : Signal) :
    Reaction f n signal (f.receive n signal).1 (f.receive n signal).2 :=
  (f.reaction_react n signal).append (quiet_closing f _)

theorem settled_receive (f : LiveFeed) (n : Nat) (signal : Signal) :
    Settled f (f.receive n signal).1 := (f.reaction n signal).settled

theorem paused_receive (f : LiveFeed) (n : Nat) (signal : Signal) :
    (f.receive n signal).1.valve.paused = f.valve.paused := (f.reaction n signal).paused

/-! ## Snapshots that meet the valve -/

variable {f}

theorem exists_of_arrival (h : f.arrival? n signal = some s) :
    ∃ news, signal = .turn ∧ f.inHand? n = some news ∧ news.snapshot? = some s := by
  cases signal with
  | turn =>
    obtain ⟨news, hhand, hs⟩ := Option.bind_eq_some_iff.1 h
    exact ⟨news, rfl, hhand, hs⟩
  | _ => cases h

/-- A snapshot that comes in goes through the valve, and what passes is sent, or nothing at all
when nobody listens. -/
theorem receive_of_arrival (h : f.arrival? n signal = some s) :
    (f.receive n signal).1.valve = (f.valve.pass s).1 ∧
      (Effect.events (f.receive n signal).2).Sublist
        ((f.valve.pass s).2.toList.map .snapshot) := by
  obtain ⟨news, hsignal, hhand, hs⟩ := exists_of_arrival h
  exact (f.reaction n signal).of_snapshot hsignal hhand hs

/-- Any other report leaves the valve alone and sends no snapshot. -/
theorem receive_of_none (h : f.arrival? n signal = none) :
    (f.receive n signal).1.valve = f.valve ∧
      Plain (Effect.events (f.receive n signal).2) := by
  refine (f.reaction n signal).of_no_snapshot fun news hsignal hhand => ?_
  simpa [arrival?, hsignal, hhand] using h

end LiveFeed

end SnapshotViewer
