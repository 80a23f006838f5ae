/-!
# What a run yields

A machine goes from state to state, one step for each operation.  Some steps yield something that
the state behind them does not show any more, such as a snapshot that was handed over; `gather`
collects it along a run.  Everything here is said of any machine, so that the runs of the viewer
and those of a whole client share it.

## Main definitions

* `gather` — what the steps of a run yield, in order.

## Main statements

* `last_gather_cons` — what was yielded last, step by step.
* `gather_sublist` — who yields only some of what another one yields.
* `gather_disjoint` — two who never yield in the same step.
-/

namespace SnapshotViewer

variable {σ ο α : Type} (step : σ → ο → σ)

/-- What the steps of a run yield, in order. -/
def gather (yield : σ → ο → Option α) : σ → List ο → List α
  | _, [] => []
  | s, op :: ops => (yield s op).toList ++ gather yield (step s op) ops

variable (yield : σ → ο → Option α)

@[simp] theorem gather_nil (s : σ) : gather step yield s [] = [] := rfl

theorem gather_cons (s : σ) (op : ο) (ops : List ο) :
    gather step yield s (op :: ops) =
      (yield s op).toList ++ gather step yield (step s op) ops := rfl

variable {step yield}

/-- What was yielded last: what the first step yields counts only if nothing comes behind it. -/
theorem last_gather_cons (s : σ) (op : ο) (ops : List ο) (a : α) :
    (gather step yield s (op :: ops)).getLast?.getD a =
      (gather step yield (step s op) ops).getLast?.getD ((yield s op).getD a) := by
  rw [gather_cons, List.getLast?_append]
  cases (gather step yield (step s op) ops).getLast? with
  | none => cases yield s op <;> rfl
  | some b => rfl

/-- What a run yields is yielded by one of its steps. -/
theorem exists_of_mem_gather {s : σ} {ops : List ο} {a : α} (h : a ∈ gather step yield s ops) :
    ∃ s op, yield s op = some a := by
  induction ops generalizing s with
  | nil => cases h
  | cons op ops ih =>
    rcases List.mem_append.1 h with hnow | hlater
    · exact ⟨s, op, Option.mem_toList.1 hnow⟩
    · exact ih hlater

/-- Whoever yields nothing but what another one yields too, yields a part of it, in its order. -/
theorem gather_sublist {part : σ → ο → Option α}
    (h : ∀ s op a, part s op = some a → yield s op = some a) (s : σ) (ops : List ο) :
    (gather step part s ops).Sublist (gather step yield s ops) := by
  induction ops generalizing s with
  | nil => exact List.Sublist.refl _
  | cons op ops ih =>
    rw [gather_cons, gather_cons]
    refine List.Sublist.append ?_ (ih (step s op))
    cases hpart : part s op with
    | none => exact List.nil_sublist _
    | some a => simp [h s op a hpart]

/-- If everything that is yielded has a mark of its own, two who never yield in the same step
never yield the same mark. -/
theorem gather_disjoint {β : Type} {mark : α → β} {p q : σ → ο → Option α}
    (hp : ∀ s op a, p s op = some a → yield s op = some a)
    (hq : ∀ s op a, q s op = some a → yield s op = some a)
    (hpq : ∀ s op, p s op = none ∨ q s op = none) {s : σ} {ops : List ο}
    (hmarks : ((gather step yield s ops).map mark).Nodup) {a b : α}
    (ha : a ∈ gather step p s ops) (hb : b ∈ gather step q s ops) : mark a ≠ mark b := by
  induction ops generalizing s with
  | nil => cases ha
  | cons op ops ih =>
    rw [gather_cons, List.map_append, List.nodup_append] at hmarks
    obtain ⟨-, hlater, hapart⟩ := hmarks
    rw [gather_cons, List.mem_append, Option.mem_toList] at ha hb
    have hnow : ∀ {x}, yield s op = some x → mark x ∈ (yield s op).toList.map mark := by
      intro x hx
      simp [hx]
    rcases ha with ha | ha
    · rcases hb with hb | hb
      · rcases hpq s op with hnone | hnone
        · rw [hnone] at ha
          cases ha
        · rw [hnone] at hb
          cases hb
      · have hmem := (gather_sublist hq (step s op) ops).subset hb
        exact hapart _ (hnow (hp s op a ha)) _ (List.mem_map_of_mem hmem)
    · rcases hb with hb | hb
      · have hmem := (gather_sublist hp (step s op) ops).subset ha
        exact (hapart _ (hnow (hq s op b hb)) _ (List.mem_map_of_mem hmem)).symm
      · exact ih hlater ha hb

end SnapshotViewer
