import SnapshotViewer.Proofs.Keyboard.Operation
import SnapshotViewer.Proofs.Keyboard.Order

/-!
# Prompts

While a prompt is open, keys are text, and nothing that they type reaches the navigator until the
prompt is left with enter.  A prompt that is cancelled is as if it had never been opened.

What a prompt leaves behind is the keyboard without it (`closed`).  Opening it, typing into it and
cancelling it all keep that.

## Main definitions

* `closed` — the keyboard without the prompt that is open.
* `opens` — the keys that open a prompt.
* `StaysOpen` — keys that leave a prompt open.

## Main statements

* `mode_handleKey_eq_normal_iff` — the keys that leave a prompt.
* `nav_handleKey` — the one key in a prompt that concerns the navigator.
* `run_of_staysOpen` — what a prompt that stays open keeps.
* `cancelled_prompt` — a prompt that is cancelled leaves nothing behind.
-/

namespace SnapshotViewer

namespace InputState

variable {i j : InputState} {a : KeyAction} {n : Navigator} {k : Key} {now : Int}

/-- The keyboard without the prompt that is open, and without a hint. -/
def closed (i : InputState) : InputState :=
  { i with
    mode := .normal
    filterInput := ""
    timeJumpInput := ""
    timeJumpError := none
    status := none }

/-- Whether a key opens a prompt, where no prompt is open and no help is shown. -/
def opens (i : InputState) (k : Key) : Bool :=
  k.code = .char '/' || !i.isLive && k.code = .char 'b'

/-- Without a prompt there is nothing to close. -/
theorem closed_of_normal (h : i.InOrder) (hmode : i.mode = .normal) :
    i.closed = { i with status := none } := by
  have hfilter : i.filterInput = "" := h.filterInput (by simp [hmode])
  have hinput : i.timeJumpInput = "" := h.timeJumpInput (by simp [hmode])
  have herror : i.timeJumpError = none := h.timeJumpError (by simp [hmode])
  simp [closed, hmode, hfilter, hinput, herror]

/-- Whatever a key does while a prompt is open, it does to the prompt. -/
theorem Turn.closed_eq (h : Turn i j a) (hopen : i.mode ≠ .normal) : j.closed = i.closed := by
  cases h with
  | help isShown hmode => exact absurd hmode hopen
  | openFilter text hmode hhelp => exact absurd hmode hopen
  | openTimeJump hmode hhelp hlive => exact absurd hmode hopen
  | _ => rfl

theorem closed_handleKey (hopen : i.mode ≠ .normal) :
    (i.handleKey now n k).input.closed = i.closed := by
  obtain ⟨status, h⟩ := turn_handleKey i n k now
  exact h.closed_eq hopen

/-! ## Opening and cancelling -/

/-- Opening a prompt adds nothing but the prompt. -/
theorem handleKey_of_opens (n : Navigator) (now : Int) (hmode : i.mode = .normal)
    (hhelp : i.showHelp = false) (hk : i.opens k = true) :
    (i.handleKey now n k).input.mode ≠ .normal ∧
      (i.handleKey now n k).input.closed = i.closed ∧ (i.handleKey now n k).nav = n := by
  rw [opens, Bool.or_eq_true, Bool.and_eq_true] at hk
  rcases hk with hk | ⟨hlive, hk⟩
  · have hcode : k.code = .char '/' := by simpa using hk
    have hkey : i.handleKey now n k =
        { input := { i with status := none, filterInput := n.state.filterText, mode := .filter }
          nav := n } := by
      simp [handleKey, normalKey, normalChar, digitTab?, hcode, hmode, hhelp]
    rw [hkey]
    exact ⟨by simp, rfl, rfl⟩
  · have hcode : k.code = .char 'b' := by simpa using hk
    have hhistory : i.isLive = false := by simpa using hlive
    have hkey : i.handleKey now n k =
        { input :=
            { i with status := none, timeJumpInput := "", timeJumpError := none, mode := .timeJump }
          nav := n } := by
      simp [handleKey, normalKey, normalChar, digitTab?, hcode, hmode, hhelp, hhistory]
    rw [hkey]
    exact ⟨by simp, rfl, rfl⟩

/-- Escape closes the prompt. -/
theorem handleKey_of_esc (n : Navigator) (now : Int) (h : i.InOrder) (hopen : i.mode ≠ .normal)
    (hk : k.code = .esc) : i.handleKey now n k = ⟨i.closed, n, .none⟩ := by
  cases hmode : i.mode with
  | normal => exact absurd hmode hopen
  | filter =>
    have hinput : i.timeJumpInput = "" := h.timeJumpInput (by simp [hmode])
    have herror : i.timeJumpError = none := h.timeJumpError (by simp [hmode])
    simp [handleKey, filterKey, closed, hk, hmode, hinput, herror]
  | timeJump =>
    have hfilter : i.filterInput = "" := h.filterInput (by simp [hmode])
    simp [handleKey, timeJumpKey, closed, hk, hmode, hfilter]

/-! ## Keys in a prompt -/

/-- In a prompt a key ends the program, or it is one for that prompt. -/
theorem handleKey_of_open (n : Navigator) (k : Key) (now : Int) (hopen : i.mode ≠ .normal) :
    (k.code = .char 'c' ∧ i.handleKey now n k = ⟨i, n, .quit⟩) ∨
    (i.mode = .filter ∧ i.handleKey now n k = { i with status := none }.filterKey n k) ∨
    (i.mode = .timeJump ∧
      i.handleKey now n k = { i with status := none }.timeJumpKey now n k) := by
  rw [handleKey]
  split
  · next hquit => exact .inl ⟨by simpa using (Bool.and_eq_true_iff.1 hquit).2, rfl⟩
  · dsimp only
    split
    · next hmode => exact absurd hmode hopen
    · next hmode => exact .inr (.inl ⟨hmode, rfl⟩)
    · next hmode => exact .inr (.inr ⟨hmode, rfl⟩)

theorem mode_filterKey (h : i.mode = .filter) :
    (i.filterKey n k).input.mode = .normal ↔ k.code = .esc ∨ k.code = .enter := by
  rw [filterKey]
  split
  · next hk => simp [hk]
  · next hk => simp [hk]
  · next hk => simp [hk, h]
  · next hesc henter _ =>
    refine iff_of_false ?_ (not_or.2 ⟨hesc, henter⟩)
    split
    · simp [h]
    · simp [h]

theorem mode_timeJumpKey (h : i.mode = .timeJump) :
    (i.timeJumpKey now n k).input.mode = .normal ↔ k.code = .esc ∨ k.code = .enter ∧
      ∃ t, parseTime i.timeJumpInput ((n.current.map (·.timestamp)).getD now) = .ok t := by
  rw [timeJumpKey]
  split
  · next hk => simp [hk]
  · next hk =>
    split
    · next t ht => simp [hk, ht]
    · next e he => simp [hk, he, h]
  · next hk => simp [hk, h]
  · next hesc henter _ =>
    refine iff_of_false ?_ (not_or.2 ⟨hesc, fun hk => henter hk.1⟩)
    split
    · simp [h]
    · simp [h]

/-- The keys that leave a prompt: escape, and enter unless it asks for a time that is none. -/
theorem mode_handleKey_eq_normal_iff (hopen : i.mode ≠ .normal) :
    (i.handleKey now n k).input.mode = .normal ↔ k.code = .esc ∨ k.code = .enter ∧
      (i.mode = .timeJump →
        ∃ t, parseTime i.timeJumpInput ((n.current.map (·.timestamp)).getD now) = .ok t) := by
  rcases handleKey_of_open n k now hopen with ⟨hk, hkey⟩ | ⟨hmode, hkey⟩ | ⟨hmode, hkey⟩
  · simp [hkey, hk, hopen]
  · simp [hkey, mode_filterKey, hmode]
  · simp [hkey, mode_timeJumpKey, hmode]

theorem nav_filterKey : (i.filterKey n k).nav =
    if k.code = .enter then n.changeFilterText i.filterInput else n := by
  rw [filterKey]
  split
  · next hk => simp [hk]
  · next hk => simp [hk]
  · next hk => simp [hk]
  · next henter _ =>
    split
    · rw [if_neg henter]
    · rw [if_neg henter]

/-- In a prompt one key concerns the navigator: enter, which applies a filter text. -/
theorem nav_handleKey (hopen : i.mode ≠ .normal) : (i.handleKey now n k).nav =
    if i.mode = .filter ∧ k.code = .enter then n.changeFilterText i.filterInput else n := by
  rcases handleKey_of_open n k now hopen with ⟨hk, hkey⟩ | ⟨hmode, hkey⟩ | ⟨hmode, hkey⟩
  · simp [hkey, hk]
  · simp [hkey, nav_filterKey, hmode]
  · simp [hkey, nav_timeJumpKey, hmode]

/-- A key that leaves the prompt open leaves the navigator alone. -/
theorem nav_of_stays (hopen : i.mode ≠ .normal)
    (hstays : (i.handleKey now n k).input.mode ≠ .normal) : (i.handleKey now n k).nav = n := by
  rw [nav_handleKey hopen, if_neg]
  rintro ⟨hmode, henter⟩
  refine hstays ((mode_handleKey_eq_normal_iff hopen).2 (.inr ⟨henter, ?_⟩))
  simp [hmode]

end InputState

namespace Keyboard
open InputState

/-- A prompt is open behind each of several keys. -/
def StaysOpen : InputState × Navigator → List (Int × Key) → Prop
  | _, [] => True
  | state, (now, k) :: keys =>
    (apply state (.key now k)).1.mode ≠ .normal ∧ StaysOpen (apply state (.key now k)) keys

instance decidableStaysOpen :
    ∀ (state : InputState × Navigator) (keys : List (Int × Key)), Decidable (StaysOpen state keys)
  | _, [] => inferInstanceAs (Decidable True)
  | state, (now, k) :: keys =>
    have := decidableStaysOpen (apply state (.key now k)) keys
    inferInstanceAs (Decidable (_ ∧ _))

/-- What is typed into a prompt that stays open is all in the prompt. -/
theorem run_of_staysOpen (state : InputState × Navigator) (hmode : state.1.mode ≠ .normal)
    {keys : List (Int × Key)} (hopen : StaysOpen state keys) :
    (run state (presses keys)).1.mode ≠ .normal ∧
      (run state (presses keys)).1.closed = state.1.closed ∧
      (run state (presses keys)).2 = state.2 := by
  induction keys generalizing state with
  | nil => exact ⟨hmode, rfl, rfl⟩
  | cons key keys ih =>
    obtain ⟨now, k⟩ := key
    obtain ⟨hstays, hlater⟩ := hopen
    obtain ⟨hrun, hclosed, hnav⟩ := ih (apply state (.key now k)) hstays hlater
    refine ⟨hrun, ?_, ?_⟩
    · exact hclosed.trans (closed_handleKey hmode)
    · exact hnav.trans (nav_of_stays hmode hstays)

theorem inOrder_of_reachable {i : InputState} (h : Reachable i) : i.InOrder := by
  obtain ⟨isLive, n, ops, rfl⟩ := h
  exact (inOrder_run ({ isLive }, n) (InOrder.start isLive) ops).1

/-- A prompt that is opened, typed into and cancelled leaves nothing behind, but it takes the hint
away.  While a prompt is open no key concerns the navigator, but for enter in the prompt for the
filter text: that one changes the filter text and its entry in the address, and nothing else.  The
keys that leave a prompt are escape, and enter unless it asks for a time that is none. -/
theorem cancelled_prompt :
    (∀ (i : InputState) (n : Navigator) (opener closer : Key) (t u : Int)
        (keys : List (Int × Key)),
      Reachable i → i.mode = .normal → i.showHelp = false → i.opens opener = true →
      closer.code = .esc → StaysOpen (apply (i, n) (.key t opener)) keys →
      run (i, n) (presses ((t, opener) :: keys ++ [(u, closer)])) =
        ({ i with status := none }, n)) ∧
    ∀ (i : InputState) (n : Navigator) (now : Int) (k : Key), i.mode ≠ .normal →
      (i.handleKey now n k).nav =
        (if i.mode = .filter ∧ k.code = .enter then
          let address := { n.address with filter := nonEmpty i.filterInput }
          { n with
            state := { n.state with filterText := i.filterInput }
            address
            dirty := n.dirty || address ≠ n.address }
        else n) ∧
      ((i.handleKey now n k).input.mode = .normal ↔ k.code = .esc ∨ k.code = .enter ∧
        (i.mode = .timeJump →
          ∃ t, parseTime i.timeJumpInput ((n.current.map (·.timestamp)).getD now) = .ok t)) := by
  constructor
  · intro i n opener closer t u keys hi hmode hhelp hopener hcloser hstays
    have horder := inOrder_of_reachable hi
    obtain ⟨hopens, hclosed, hnav⟩ := handleKey_of_opens n t hmode hhelp hopener
    obtain ⟨hopen, hclosed', hnav'⟩ := run_of_staysOpen _ hopens hstays
    have horder' := (inOrder_run (apply (i, n) (.key t opener)) (horder.handleKey n opener t)
      (presses keys)).1
    have hesc := handleKey_of_esc (run (apply (i, n) (.key t opener)) (presses keys)).2 u horder'
      hopen hcloser
    calc run (i, n) (presses ((t, opener) :: keys ++ [(u, closer)]))
        = apply (run (apply (i, n) (.key t opener)) (presses keys)) (.key u closer) := by
          simp [presses, run, List.foldl_append]
      _ = ((run (apply (i, n) (.key t opener)) (presses keys)).1.closed,
            (run (apply (i, n) (.key t opener)) (presses keys)).2) := by rw [apply, hesc]
      _ = (i.closed, n) := Prod.ext (hclosed'.trans hclosed) (hnav'.trans hnav)
      _ = ({ i with status := none }, n) := by rw [closed_of_normal horder hmode]
  · intro i n now k hopen
    exact ⟨nav_handleKey hopen, mode_handleKey_eq_normal_iff hopen⟩

/-- There is nothing to drill into, which gives a hint; then a time is asked for, a text that is
none is entered, and the prompt is cancelled.  A filter text is typed and applied. -/
theorem cancelled_prompt_of_failed_time :
    let history : Navigator := Navigator.start { mode := .history } {}
    let press (code : KeyCode) : Int × Key := (0, { code })
    let hinted := (run ({ isLive := false }, history) (presses [press (.char '>')])).1
    let opener : Key := { code := .char 'b' }
    let closer : Key := { code := .esc }
    let keys := [press (.char 'x'), press .enter, (0, { code := .char 'c', ctrl := true }),
      press .backspace, press .left]
    (Reachable hinted ∧ hinted.mode = .normal ∧ hinted.showHelp = false ∧
        hinted.opens opener = true ∧ closer.code = .esc ∧
        StaysOpen (apply (hinted, history) (.key 0 opener)) keys) ∧
      run (hinted, history) (presses ((0, opener) :: keys ++ [(0, closer)])) =
        ({ hinted with status := none }, history) ∧
      let typing := (run (hinted, history) (presses [press (.char '/'), press (.char 'x')])).1
      typing.mode ≠ .normal ∧
        (typing.handleKey 0 history { code := .enter }).nav.state.filterText = "x" := by
  intro history press hinted opener closer keys
  have hreachable : Reachable hinted := ⟨_, _, _, rfl⟩
  have hmode : hinted.mode = .normal := by decide +kernel
  have hhelp : hinted.showHelp = false := by decide +kernel
  have hopener : hinted.opens opener = true := by decide +kernel
  have hstays : StaysOpen (apply (hinted, history) (.key 0 opener)) keys := by decide +kernel
  refine ⟨⟨hreachable, hmode, hhelp, hopener, rfl, hstays⟩,
    cancelled_prompt.1 hinted history opener closer 0 0 keys hreachable hmode hhelp hopener rfl
      hstays, ?_⟩
  intro typing
  have htyping : typing.mode ≠ .normal := by decide +kernel
  refine ⟨htyping, ?_⟩
  rw [(cancelled_prompt.2 typing history 0 { code := .enter } htyping).1]
  decide +kernel

end Keyboard

end SnapshotViewer
