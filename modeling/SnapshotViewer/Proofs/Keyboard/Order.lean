import SnapshotViewer.Keyboard.Run

/-!
# The keyboard in order

The keyboard has three modes and a help, and every one of them has ways in and out of its own.  What
belongs to a prompt is there only while that prompt is open, help is only shown while none is, and
a time is only asked for in a history.  So whatever a key asks of the feed is something that a feed
of that kind can do.

What a key can do to the keyboard is said once (`turn_handleKey`); that it keeps the keyboard in
order is read off it.

## Main definitions

* `InOrder` — everything is where the mode wants it.
* `KeyAction.suits` — the actions for a feed of some kind.
* `Turn` — what a key can do to the keyboard.

## Main statements

* `turn_handleKey` — a key does one of these things.
* `InOrder.turn`, `Turn.suits` — it keeps the order, and asks for what suits the feed.
* `inOrder_run` — the keyboard is always in order.
-/

namespace SnapshotViewer

/-- Whether a feed can do what is asked for: a live one can be paused, and in a history one can move
in time. -/
def KeyAction.suits (isLive : Bool) : KeyAction → Bool
  | .none | .quit => true
  | .togglePause => isLive
  | .historyStep _ | .jumpTo _ => !isLive

namespace InputState

/-- Everything is where the mode wants it. -/
structure InOrder (i : InputState) : Prop where
  help : i.showHelp = true → i.mode = .normal
  timeJump : i.mode = .timeJump → i.isLive = false
  filterInput : i.mode ≠ .filter → i.filterInput = ""
  timeJumpInput : i.mode ≠ .timeJump → i.timeJumpInput = ""
  timeJumpError : i.mode ≠ .timeJump → i.timeJumpError = none

/-- What a key can do to the keyboard, and ask for. -/
inductive Turn (i : InputState) : InputState → KeyAction → Prop
  /-- No mode is entered or left; a time is not asked for. -/
  | keep {a : KeyAction} (h : a.suits i.isLive = true) : Turn i i a
  /-- A hint is given. -/
  | hint (text : Option String) : Turn i { i with status := text } .none
  /-- The help is shown or closed. -/
  | help (isShown : Bool) (h : i.mode = .normal) : Turn i { i with showHelp := isShown } .none
  | openFilter (text : String) (hmode : i.mode = .normal) (hhelp : i.showHelp = false) :
    Turn i { i with filterInput := text, mode := .filter } .none
  | openTimeJump (hmode : i.mode = .normal) (hhelp : i.showHelp = false)
      (hlive : i.isLive = false) :
    Turn i { i with timeJumpInput := "", timeJumpError := none, mode := .timeJump } .none
  | typeFilter (text : String) (h : i.mode = .filter) : Turn i { i with filterInput := text } .none
  | typeTimeJump (text : String) (error : Option String) (h : i.mode = .timeJump) :
    Turn i { i with timeJumpInput := text, timeJumpError := error } .none
  | closeFilter (h : i.mode = .filter) : Turn i { i with filterInput := "", mode := .normal } .none
  | closeTimeJump {a : KeyAction} (h : i.mode = .timeJump) (ha : a.suits false = true) :
    Turn i { i with timeJumpInput := "", timeJumpError := none, mode := .normal } a

/-! ## Every key is such a turn -/

section Key
variable (i : InputState) (n : Navigator) (k : Key)

theorem turn_helpKey (h : i.mode = .normal) :
    Turn i (i.helpKey n k).input (i.helpKey n k).action := by
  rw [helpKey]
  split
  · exact .keep rfl
  · exact .keep rfl
  · exact .help false h
  · exact .help false h
  · exact .keep rfl

theorem turn_drill : Turn i (i.drill n).input (i.drill n).action := by
  rw [drill]
  split
  · exact .keep rfl
  · exact .hint _

theorem turn_normalChar (hmode : i.mode = .normal) (hhelp : i.showHelp = false) (c : Char) :
    Turn i (i.normalChar n c).input (i.normalChar n c).action := by
  unfold normalChar
  split
  · exact .keep rfl
  · split
    · exact .keep rfl
    · exact .keep rfl
    · exact .help true hmode
    · exact .keep rfl
    · exact .keep rfl
    · exact turn_drill i n
    · exact .openFilter _ hmode hhelp
    · exact .keep rfl
    · cases hlive : i.isLive with
      | true => exact .keep hlive
      | false => exact .keep rfl
    · split
      · exact .keep rfl
      · next hlive => exact .openTimeJump hmode hhelp (by simpa using hlive)
    · exact .keep rfl

theorem turn_normalKey (hmode : i.mode = .normal) (hhelp : i.showHelp = false) :
    Turn i (i.normalKey n k).input (i.normalKey n k).action := by
  have htimeline : ∀ step,
      (if i.isLive then KeyAction.none else .historyStep step).suits i.isLive := by
    intro step
    cases i.isLive <;> rfl
  rw [normalKey]
  cases k.code with
  | char c => exact turn_normalChar i n hmode hhelp c
  | left => exact .keep (htimeline _)
  | right => exact .keep (htimeline _)
  | _ => exact .keep rfl

theorem turn_filterKey (h : i.mode = .filter) :
    Turn i (i.filterKey n k).input (i.filterKey n k).action := by
  rw [filterKey]
  split
  · exact .closeFilter h
  · exact .closeFilter h
  · exact .typeFilter _ h
  · split
    · exact .typeFilter _ h
    · exact .keep rfl

theorem turn_timeJumpKey (h : i.mode = .timeJump) (now : Int) :
    Turn i (i.timeJumpKey now n k).input (i.timeJumpKey now n k).action := by
  rw [timeJumpKey]
  split
  · exact .closeTimeJump h rfl
  · split
    · exact .closeTimeJump h rfl
    · exact .typeTimeJump _ _ h
  · exact .typeTimeJump _ _ h
  · split
    · exact .typeTimeJump _ _ h
    · exact .keep rfl

/-- A key takes the hint away, unless it ends the program, and does one of these things then. -/
theorem turn_handleKey (now : Int) : ∃ status,
    Turn { i with status } (i.handleKey now n k).input (i.handleKey now n k).action := by
  rw [handleKey]
  split
  · exact ⟨i.status, .keep rfl⟩
  · refine ⟨none, ?_⟩
    dsimp only
    split
    · next hmode =>
      split
      · exact turn_helpKey _ n k hmode
      · next hhelp => exact turn_normalKey _ n k hmode (by simpa using hhelp)
    · next hmode => exact turn_filterKey _ n k hmode
    · next hmode => exact turn_timeJumpKey { i with status := none } n k hmode now

end Key

/-! ## The order is kept -/

variable {i j : InputState} {a : KeyAction}

theorem InOrder.start (isLive : Bool) : InOrder { isLive } where
  help := by rintro ⟨⟩
  timeJump := by rintro ⟨⟩
  filterInput _ := rfl
  timeJumpInput _ := rfl
  timeJumpError _ := rfl

/-- The order has nothing to do with the hint. -/
theorem InOrder.withStatus (h : i.InOrder) (status : Option String) :
    InOrder { i with status } := { h with }

theorem InOrder.turn (h : i.InOrder) (ht : Turn i j a) : j.InOrder := by
  cases ht with
  | keep _ => exact h
  | hint text => exact h.withStatus text
  | help isShown hmode => exact { h with help := fun _ => hmode }
  | openFilter text hmode hhelp =>
    refine ⟨by simp [hhelp], by simp, by simp, fun _ => ?_, fun _ => ?_⟩
    · exact h.timeJumpInput (by simp [hmode])
    · exact h.timeJumpError (by simp [hmode])
  | openTimeJump hmode hhelp hlive =>
    refine ⟨by simp [hhelp], fun _ => hlive, fun _ => ?_, by simp, by simp⟩
    exact h.filterInput (by simp [hmode])
  | typeFilter text hmode => exact { h with filterInput := fun hne => absurd hmode hne }
  | typeTimeJump text error hmode =>
    exact { h with
      timeJumpInput := fun hne => absurd hmode hne
      timeJumpError := fun hne => absurd hmode hne }
  | closeFilter hmode =>
    refine ⟨by simp, by simp, by simp, fun _ => ?_, fun _ => ?_⟩
    · exact h.timeJumpInput (by simp [hmode])
    · exact h.timeJumpError (by simp [hmode])
  | closeTimeJump hmode _ =>
    exact ⟨by simp, by simp, fun _ => h.filterInput (by simp [hmode]), by simp, by simp⟩

theorem Turn.isLive (ht : Turn i j a) : j.isLive = i.isLive := by
  cases ht <;> rfl

/-- What a key asks for suits the feed; a time is given only where one was asked for. -/
theorem Turn.suits (ht : Turn i j a) (h : i.InOrder) : a.suits i.isLive = true := by
  cases ht with
  | keep ha => exact ha
  | closeTimeJump hmode ha =>
    rw [h.timeJump hmode]
    exact ha
  | _ => rfl

section Key
variable (n : Navigator) (k : Key) (now : Int)

theorem InOrder.handleKey (h : i.InOrder) : (i.handleKey now n k).input.InOrder := by
  obtain ⟨status, ht⟩ := turn_handleKey i n k now
  exact (h.withStatus status).turn ht

theorem isLive_handleKey (i : InputState) : (i.handleKey now n k).input.isLive = i.isLive := by
  obtain ⟨status, ht⟩ := turn_handleKey i n k now
  exact ht.isLive

theorem InOrder.suits (h : i.InOrder) : (i.handleKey now n k).action.suits i.isLive = true := by
  obtain ⟨status, ht⟩ := turn_handleKey i n k now
  exact ht.suits (h.withStatus status)

end Key

end InputState

namespace Keyboard
open InputState

theorem run_cons (state : InputState × Navigator) (op : KeyboardOp) (ops : List KeyboardOp) :
    run state (op :: ops) = run (apply state op) ops := rfl

/-- The keyboard stays in order, whatever is pressed and whatever arrives. -/
theorem inOrder_run (state : InputState × Navigator) (h : state.1.InOrder)
    (ops : List KeyboardOp) :
    (run state ops).1.InOrder ∧ (run state ops).1.isLive = state.1.isLive := by
  induction ops generalizing state with
  | nil => exact ⟨h, rfl⟩
  | cons op ops ih =>
    rw [run_cons]
    cases op with
    | key now k =>
      have hkey : (apply state (.key now k)).1.InOrder := h.handleKey state.2 k now
      obtain ⟨horder, hlive⟩ := ih _ hkey
      exact ⟨horder, hlive.trans (isLive_handleKey state.2 k now state.1)⟩
    | snapshot s =>
      have harrival : (apply state (.snapshot s)).1.InOrder := h
      exact ih _ harrival

end Keyboard

end SnapshotViewer
