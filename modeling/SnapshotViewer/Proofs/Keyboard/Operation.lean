import SnapshotViewer.Keyboard.Run
import SnapshotViewer.Proofs.Navigator.Frame

/-!
# What keys do to the navigator

A key does at most one operation to the navigator, and only some operations can be typed: a key
never names a view, sets the moment of the address or starts a drill-down from anywhere else than
the chosen row.  So a run at the keyboard is a run of the navigator, made of operations that can
be typed and of the snapshots that arrive.

## Main definitions

* `NavigatorOp.isTyped` — the operations that keys stand for.
* `Typed` — nothing, or one of them.

## Main statements

* `typed_handleKey` — a key does at most one operation.
* `idle_handleKey` — a key that asks something of the rest of the program does none.
* `nav_run` — a run at the keyboard is a run of the navigator.
-/

namespace SnapshotViewer

/-- Whether some key stands for an operation. -/
def NavigatorOp.isTyped : NavigatorOp → Bool
  | .changeTab _ | .closeDetail | .toggleDetail | .cycleView | .changeFilterText _
  | .clearColumnFilter | .step _ | .selectFirst | .selectLast | .drillDownSelected => true
  | .selectRow id => id.isNone
  | _ => false

namespace InputState

/-- What a key can do to a navigator: nothing, or an operation that it stands for. -/
inductive Typed (n : Navigator) : Navigator → Prop
  | nothing : Typed n n
  | one (op : NavigatorOp) (h : op.isTyped = true) : Typed n (n.apply op)

variable (i : InputState) (n : Navigator) (k : Key)

theorem nav_helpKey : (i.helpKey n k).nav = n := by
  unfold helpKey
  split <;> rfl

theorem nav_timeJumpKey (now : Int) : (i.timeJumpKey now n k).nav = n := by
  unfold timeJumpKey
  split
  · rfl
  · split <;> rfl
  · rfl
  · split <;> rfl

theorem nav_drill : (i.drill n).nav = n.drillDownSelected.1 := by
  unfold drill
  split
  · next h => rw [h]
  · next h => rw [h]

theorem typed_escape : Typed n (escape n) := by
  unfold escape
  split
  · exact .one .closeDetail rfl
  · split
    · exact .one (.selectRow none) rfl
    · exact .one .clearColumnFilter rfl

theorem typed_normalChar (c : Char) : Typed n (i.normalChar n c).nav := by
  unfold normalChar
  split
  · next tab _ => exact .one (.changeTab tab) rfl
  · split
    · exact .nothing
    · exact .nothing
    · exact .nothing
    · exact .one (.step 1) rfl
    · exact .one (.step (-1)) rfl
    · rw [nav_drill]
      exact .one .drillDownSelected rfl
    · exact .nothing
    · exact .one .cycleView rfl
    · exact .nothing
    · split
      · exact .nothing
      · exact .nothing
    · exact .nothing

theorem typed_normalKey : Typed n (i.normalKey n k).nav := by
  unfold normalKey
  dsimp only
  split
  · exact typed_normalChar i n _
  · exact .one (.changeTab _) rfl
  · exact .one (.changeTab _) rfl
  · exact .one (.step 1) rfl
  · exact .one (.step (-1)) rfl
  · exact .one (.step pageRows) rfl
  · exact .one (.step (-pageRows)) rfl
  · exact .one .selectFirst rfl
  · exact .one .selectLast rfl
  · exact .one .toggleDetail rfl
  · exact typed_escape n
  · exact .nothing
  · exact .nothing
  · exact .nothing
  · exact .nothing

theorem typed_filterKey : Typed n (i.filterKey n k).nav := by
  unfold filterKey
  split
  · exact .nothing
  · exact .one (.changeFilterText _) rfl
  · exact .nothing
  · split
    · exact .nothing
    · exact .nothing

/-- A key does nothing to the navigator, or one operation. -/
theorem typed_handleKey (now : Int) : Typed n (i.handleKey now n k).nav := by
  unfold handleKey
  split
  · exact .nothing
  · dsimp only
    split
    · split
      · rw [nav_helpKey]
        exact .nothing
      · exact typed_normalKey _ n k
    · exact typed_filterKey _ n k
    · rw [nav_timeJumpKey]
      exact .nothing

theorem action_drill : (i.drill n).action = .none := by
  unfold drill
  split
  · rfl
  · rfl

theorem idle_normalChar (c : Char) :
    (i.normalChar n c).action = .none ∨ (i.normalChar n c).nav = n := by
  unfold normalChar
  split
  · exact .inl rfl
  · split
    · exact .inr rfl
    · exact .inr rfl
    · exact .inr rfl
    · exact .inl rfl
    · exact .inl rfl
    · exact .inl (action_drill i n)
    · exact .inr rfl
    · exact .inl rfl
    · exact .inr rfl
    · split
      · exact .inr rfl
      · exact .inr rfl
    · exact .inr rfl

theorem idle_normalKey : (i.normalKey n k).action = .none ∨ (i.normalKey n k).nav = n := by
  unfold normalKey
  dsimp only
  split
  · exact idle_normalChar i n _
  all_goals first | exact .inl rfl | exact .inr rfl

theorem action_filterKey : (i.filterKey n k).action = .none := by
  unfold filterKey
  split
  · rfl
  · rfl
  · rfl
  · split
    · rfl
    · rfl

/-- A key that asks something of the rest of the program leaves the navigator alone. -/
theorem idle_handleKey (now : Int) :
    (i.handleKey now n k).action = .none ∨ (i.handleKey now n k).nav = n := by
  unfold handleKey
  split
  · exact .inr rfl
  · dsimp only
    split
    · split
      · exact .inr (nav_helpKey _ n k)
      · exact idle_normalKey _ n k
    · exact .inl (action_filterKey _ n k)
    · exact .inr (nav_timeJumpKey _ n k now)

end InputState

namespace Keyboard

/-- What something that happens at the keyboard can be for the navigator: an operation that some
key stands for, or the arrival of a snapshot. -/
def Brings (ops : List KeyboardOp) (x : NavigatorOp) : Prop :=
  x.isTyped = true ∨ ∃ s, x = .onSnapshot s ∧ .snapshot s ∈ ops

/-- A run at the keyboard is a run of the navigator. -/
theorem nav_run (state : InputState × Navigator) (ops : List KeyboardOp) :
    ∃ xs, (run state ops).2 = state.2.run xs ∧ ∀ x ∈ xs, Brings ops x := by
  induction ops generalizing state with
  | nil => exact ⟨[], rfl, by simp⟩
  | cons op ops ih =>
    obtain ⟨xs, hrun, hxs⟩ := ih (apply state op)
    have hlater : ∀ x ∈ xs, Brings (op :: ops) x := by
      intro x hx
      refine (hxs x hx).imp_right ?_
      rintro ⟨s, rfl, hs⟩
      exact ⟨s, rfl, List.mem_cons_of_mem op hs⟩
    have hfirst : ∀ x, Brings (op :: ops) x → (apply state op).2 = state.2.apply x →
        ∃ xs, (run state (op :: ops)).2 = state.2.run xs ∧ ∀ x ∈ xs, Brings (op :: ops) x := by
      intro x hx happly
      refine ⟨x :: xs, ?_, by simpa using ⟨hx, hlater⟩⟩
      rw [Navigator.run_cons, ← happly]
      exact hrun
    cases op with
    | snapshot s => exact hfirst (.onSnapshot s) (.inr ⟨s, rfl, List.mem_cons_self⟩) rfl
    | key now k =>
      have htyped : InputState.Typed state.2 (apply state (.key now k)).2 :=
        InputState.typed_handleKey state.1 state.2 k now
      generalize hm : (apply state (.key now k)).2 = m at htyped
      cases htyped with
      | nothing => exact ⟨xs, by rw [← hm]; exact hrun, hlater⟩
      | one x hx => exact hfirst x (.inl hx) hm

end Keyboard

end SnapshotViewer
