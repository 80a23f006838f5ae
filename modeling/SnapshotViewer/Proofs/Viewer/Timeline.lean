import SnapshotViewer.Proofs.Time.Reader
import SnapshotViewer.Proofs.Timeline
import SnapshotViewer.Proofs.Viewer.Command

/-!
# Where keys lead in a history

In a history a key asks the server for a moment in two ways: it moves along the timeline from the
snapshot that is shown, or it ends the typing of a time.  Only snapshots that were read are shown,
so a move does what is known of its target: it leads where it should unless its seconds lead out of the
bounds of 64 bits.  Then the program breaks off, and nothing else makes it do so.  A time that was
typed is always within the bounds.

## Main definitions

* `Asks` — what a key can make a history ask for.
* `InHistory` — a viewer of a history that shows only what was read.

## Main statements

* `asks_onKey` — what a key makes a history ask for.
* `crash_onKey_iff` — when a key makes the program break off.
* `InHistory.run` — only what was read is shown.
* `timeline_bounds` — moves along the timeline, and the keys of every run.
-/

namespace SnapshotViewer

/-! ## Typed times -/

namespace InputState
variable {i : InputState} {n : Navigator} {k : Key} {now t : Int}

/-- While nothing is being typed no character asks for a moment. -/
theorem action_normalChar_ne {c : Char} : (i.normalChar n c).action ≠ .jumpTo t := by
  unfold normalChar
  split
  · simp
  · split
    · simp
    · simp
    · simp
    · simp
    · simp
    · simp [action_drill]
    · simp
    · simp
    · dsimp only
      split <;> simp
    · split <;> simp
    · simp

theorem action_normalKey_ne : (i.normalKey n k).action ≠ .jumpTo t := by
  have htimeline : ∀ step, (if i.isLive then KeyAction.none else .historyStep step) ≠ .jumpTo t := by
    intro step
    split <;> simp
  rw [normalKey]
  cases k.code with
  | char c => exact action_normalChar_ne
  | left => exact htimeline _
  | right => exact htimeline _
  | _ => simp

theorem exists_of_timeJumpKey (h : (i.timeJumpKey now n k).action = .jumpTo t) :
    ∃ base, parseTime i.timeJumpInput base = .ok t := by
  rw [timeJumpKey] at h
  split at h
  · cases h
  · split at h <;> cases h
    next hparsed => exact ⟨_, hparsed⟩
  · cases h
  · split at h <;> cases h

/-- A key asks for a moment only where a time was typed that names it. -/
theorem exists_of_jumpTo (h : (i.handleKey now n k).action = .jumpTo t) :
    ∃ base, parseTime i.timeJumpInput base = .ok t := by
  rw [handleKey] at h
  split at h
  · cases h
  · dsimp only at h
    split at h
    · split at h
      · rw [helpKey] at h
        split at h <;> cases h
      · exact absurd h action_normalKey_ne
    · rw [action_filterKey] at h
      cases h
    · exact exists_of_timeJumpKey (i := { i with status := none }) h

end InputState

namespace Viewer
open InputState

variable {v w : Viewer} {f : HistoryFeed} {a : KeyAction}

/-- What a key can make a history ask for: nothing, a moment that was typed, or the target of a move
from the snapshot that is shown. -/
inductive Asks (shown : Option Snapshot) (f : HistoryFeed) : HistoryFeed → List Effect → Prop
  | nothing : Asks shown f f []
  | typed {text : String} {base t : Int} (h : parseTime text base = .ok t)
    (hbounds : fitsInt64 t = true) :
    Asks shown f (f.jump t (some .floor)).1 (f.jump t (some .floor)).2
  | moved {s : Snapshot} {step : HistoryStep} {t : Int} {d : Direction}
    (hshown : shown = some s) (hleads : step.Leads s)
    (htarget : step.target? s = .ok (some (t, d))) :
    Asks shown f (f.jump t (some d)).1 (f.jump t (some d)).2

/-- A key asks for a move whose seconds lead out of the bounds, seen from the snapshot that is
shown. -/
def Overruns (v : Viewer) (now : Int) (k : Key) : Prop :=
  ∃ s step, v.store.current = some s ∧ (v.input.handleKey now v.nav k).action = .historyStep step ∧
    step.Overflows s

/-- A viewer of a history that shows only what was read. -/
structure InHistory (v : Viewer) : Prop where
  source : ∃ f, v.source = .history f
  shown : ∀ s, v.store.current = some s → s.IsRead

/-! ## What a key asks for -/

theorem moveInTime_of_shown {s : Snapshot} (hsource : v.source = .history f)
    (hcurrent : v.store.current = some s) (step : HistoryStep) :
    v.moveInTime step = (f.step? s step).map (v.moved step) := by
  simp only [moveInTime, hsource, hcurrent]

theorem asks_moveInTime (hsource : v.source = .history f)
    (hshown : ∀ s, v.store.current = some s → s.IsRead) {step : HistoryStep}
    {result : Viewer × List Effect} (h : v.moveInTime step = .ok result) :
    ∃ g, result.1.source = .history g ∧ Asks v.store.current f g result.2 := by
  rcases v.moveInTime_cases step with hmove | ⟨f', s, hsource', hcurrent, hmove⟩
  · obtain rfl := Except.ok.inj (hmove.symm.trans h)
    exact ⟨f, hsource, .nothing⟩
  · obtain rfl : f = f' := Source.history.inj (hsource.symm.trans hsource')
    obtain ⟨move?, hstep, rfl⟩ := exists_of_map_eq_ok (hmove.symm.trans h)
    cases move? with
    | none => exact ⟨f, hsource, .nothing⟩
    | some move =>
      obtain ⟨t, d, htarget, rfl⟩ := HistoryFeed.exists_of_step? hstep
      refine ⟨_, rfl, .moved hcurrent ?_ htarget⟩
      exact HistoryStep.leads (hshown s hcurrent).inBounds step

theorem asks_perform (hsource : v.source = .history f)
    (hshown : ∀ s, v.store.current = some s → s.IsRead)
    (htyped : ∀ t, a = .jumpTo t → ∃ text base, parseTime text base = .ok t)
    {result : Viewer × List Effect} (h : v.perform a = .ok result) :
    ∃ g, result.1.source = .history g ∧ Asks v.store.current f g result.2 := by
  cases a with
  | none =>
    obtain rfl := Except.ok.inj h
    exact ⟨f, hsource, .nothing⟩
  | quit =>
    obtain rfl := Except.ok.inj h
    exact ⟨f, hsource, .nothing⟩
  | togglePause =>
    obtain rfl := Except.ok.inj h
    refine ⟨f, ?_, .nothing⟩
    simp only [togglePause, hsource]
  | historyStep step => exact asks_moveInTime hsource hshown h
  | jumpTo t =>
    obtain ⟨text, base, hparsed⟩ := htyped t rfl
    have hjump : v.jumpTo t =
        ({ v with source := .history (f.jump t (some .floor)).1 }, (f.jump t (some .floor)).2) := by
      simp only [jumpTo, hsource]
    obtain rfl := Except.ok.inj h
    rw [hjump]
    exact ⟨_, rfl, .typed hparsed (fitsInt64_of_parseTime hparsed)⟩

/-- What a key makes a history ask for. -/
theorem asks_onKey (hsource : v.source = .history f)
    (hshown : ∀ s, v.store.current = some s → s.IsRead) (now : Int) (fs : Files) (k : Key) :
    ∃ g, (onKey now v fs k).viewer.source = .history g ∧
      Asks v.store.current f g (onKey now v fs k).effects := by
  unfold onKey
  cases hdone : (pressed now v k).perform (v.input.handleKey now v.nav k).action with
  | error crash => exact ⟨f, hsource, .nothing⟩
  | ok result =>
    obtain ⟨g, hg, hasks⟩ := asks_perform (v := pressed now v k) hsource hshown
      (fun t ht => ⟨_, exists_of_jumpTo ht⟩) hdone
    refine ⟨g, ?_, hasks⟩
    show (result.1.persist fs).viewer.source = .history g
    rw [viewer_persist]
    exact hg

/-! ## When the program breaks off -/

/-- A move in time breaks the program off exactly if its seconds lead out of the bounds. -/
theorem moveInTime_eq_error_iff (hsource : v.source = .history f)
    (hshown : ∀ s, v.store.current = some s → s.IsRead) (step : HistoryStep) :
    v.moveInTime step = .error .overflow ↔ ∃ s, v.store.current = some s ∧ step.Overflows s := by
  cases hcurrent : v.store.current with
  | none =>
    have hmove : v.moveInTime step = .ok (v, []) := by simp only [moveInTime, hsource, hcurrent]
    simp [hmove]
  | some s =>
    have hleads := HistoryStep.leads (hshown s hcurrent).inBounds step
    rw [moveInTime_of_shown hsource hcurrent]
    cases htarget : step.target? s with
    | error crash =>
      obtain rfl : crash = .overflow := by cases crash; rfl
      simpa [HistoryFeed.step?, htarget, Except.map] using hleads.crashes.1 htarget
    | ok target? =>
      have hno : ¬ step.Overflows s := fun h => by
        simpa [htarget] using hleads.crashes.2 h
      simpa [HistoryFeed.step?, htarget, Except.map] using hno

/-- A key makes the program break off exactly if it asks for a move whose seconds lead out of the
bounds. -/
theorem crash_onKey_iff (hsource : v.source = .history f)
    (hshown : ∀ s, v.store.current = some s → s.IsRead) (now : Int) (fs : Files) (k : Key) :
    (onKey now v fs k).crash = some .overflow ↔ v.Overruns now k := by
  have hmove : ∀ step, (pressed now v k).moveInTime step = .error .overflow ↔
      ∃ s, v.store.current = some s ∧ step.Overflows s :=
    moveInTime_eq_error_iff (v := pressed now v k) hsource hshown
  have hcrash : (onKey now v fs k).crash = some .overflow ↔
      (pressed now v k).perform (v.input.handleKey now v.nav k).action = .error .overflow := by
    unfold onKey
    cases hdone : (pressed now v k).perform (v.input.handleKey now v.nav k).action with
    | error crash => simp
    | ok result => simp [handled, crash_persist]
  rw [hcrash, Overruns]
  cases haction : (v.input.handleKey now v.nav k).action with
  | historyStep step => simpa [perform] using hmove step
  | _ => simp [perform]

/-! ## Runs -/

namespace InHistory

theorem start (nav : Navigator) (f : HistoryFeed) (session : Session)
    (addressFile : Option Path) :
    InHistory (Viewer.start nav (.history f) session addressFile) :=
  ⟨⟨f, rfl⟩, fun s hs => by cases hs⟩

/-- What is shown was shown before or has just been read. -/
theorem apply (h : InHistory v) (fs : Files) {op : ViewerOp}
    (hop : ∀ s, op = .event (.snapshot s) → s.IsRead) : InHistory (Viewer.apply (v, fs) op).1 := by
  obtain ⟨hcurrent, -, -⟩ := store_apply v fs op
  have hkind : (Viewer.apply (v, fs) op).1.source.isLive = v.source.isLive := by
    rw [(apply_eq_work v fs op).2, (step_work v op).isLive]
  constructor
  · obtain ⟨f, hf⟩ := h.source
    rw [hf] at hkind
    cases hsource : (Viewer.apply (v, fs) op).1.source with
    | live f => simp [hsource, Source.isLive] at hkind
    | history f => exact ⟨f, rfl⟩
  · intro s hs
    rw [hcurrent] at hs
    rcases Option.or_eq_some_iff.1 hs with hshows | ⟨-, hbefore⟩
    · exact hop s (eq_of_shows hshows)
    · exact h.shown s hbefore

theorem run {state : Viewer × Files} (h : InHistory state.1) {ops : List ViewerOp}
    (hops : ∀ s, .event (.snapshot s) ∈ ops → s.IsRead) : InHistory (Viewer.run state ops).1 := by
  induction ops generalizing state with
  | nil => exact h
  | cons op ops ih =>
    exact ih (h.apply state.2 fun s hs => hops s (hs ▸ List.mem_cons_self))
      fun s hs => hops s (List.mem_cons_of_mem op hs)

end InHistory

/-- Every move along the timeline from a snapshot that was read leads where it should, unless its
seconds lead out of the bounds, and then it is a crash.  In every run of a viewer of a history a key
asks for nothing, for a moment that was typed, which is within the bounds, or for the target of such
a move; and it makes the program break off exactly if it asks for a move whose seconds lead out of
the bounds. -/
theorem timeline_bounds {s : Snapshot} (hread : s.IsRead) (step : HistoryStep) (nav : Navigator)
    (feed : HistoryFeed) (session : Session) (addressFile : Option Path) (fs : Files)
    (ops : List ViewerOp) (hops : ∀ x, .event (.snapshot x) ∈ ops → x.IsRead) :
    step.Leads s ∧
      let v := (run (start nav (.history feed) session addressFile, fs) ops).1
      ∃ f, v.source = .history f ∧ ∀ now files k,
        (∃ g, (onKey now v files k).viewer.source = .history g ∧
          Asks v.store.current f g (onKey now v files k).effects) ∧
        ((onKey now v files k).crash = some .overflow ↔ v.Overruns now k) := by
  refine ⟨HistoryStep.leads hread.inBounds step, ?_⟩
  intro v
  have hhistory : InHistory v := (InHistory.start nav feed session addressFile).run hops
  obtain ⟨f, hf⟩ := hhistory.source
  exact ⟨f, hf, fun now files k =>
    ⟨asks_onKey hf hhistory.shown now files k, crash_onKey_iff hf hhistory.shown now files k⟩⟩

/-- A snapshot with a neighbour is read and shown. -/
theorem timeline_bounds_thousand :
    let s : Snapshot := { timestamp := 1000, prev := some 990 }
    let v := (run (start (Navigator.start { mode := .history } {}) (.history {})
      { baseUrl := "" } none, {}) [.event (.snapshot s)]).1
    s.IsRead ∧ v.store.current = some s ∧ HistoryStep.hourBack.Leads s ∧
      ∃ f, v.source = .history f ∧ ∀ now files k,
        (∃ g, (onKey now v files k).viewer.source = .history g ∧
          Asks v.store.current f g (onKey now v files k).effects) ∧
        ((onKey now v files k).crash = some .overflow ↔ v.Overruns now k) := by
  intro s v
  have hread : s.IsRead := .inl ⟨"\x7b\"timestamp\":1000,\"prev_timestamp\":990\x7d",
    toOption_eq_some_iff.1 (by decide +kernel)⟩
  have hops : ∀ x, .event (.snapshot x) ∈ [ViewerOp.event (.snapshot s)] → x.IsRead := by
    intro x hx
    obtain rfl : x = s := by simpa using hx
    exact hread
  exact ⟨hread, by decide +kernel, timeline_bounds hread .hourBack _ _ _ _ _ _ hops⟩

/-- The least moment is read and shown, and there is none an hour before it: the key for an hour
back makes the program break off. -/
theorem hourBack_crashes_of_least :
    let s : Snapshot := { timestamp := int64Min }
    let v := (run (start (Navigator.start { mode := .history } {}) (.history {})
      { baseUrl := "" } none, {}) [.event (.snapshot s)]).1
    Snapshot.ofText "\x7b\"timestamp\":-9223372036854775808\x7d" = .ok s ∧
      v.store.current = some s ∧ HistoryStep.hourBack.target? s = .error .overflow ∧
      (onKey 0 v {} { code := .left, shift := true }).crash = some .overflow :=
  ⟨toOption_eq_some_iff.1 (by decide +kernel), by decide +kernel, rfl, by decide +kernel⟩

end Viewer

end SnapshotViewer
