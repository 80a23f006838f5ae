import SnapshotViewer.Keyed

/-!
# Values under names

Values that are put in one after another are in order of their names, and those under different
names may be put in in any order.

## Main statements

* `Keyed.Ascending.insert` — the names still ascend when a value is put in.
* `Keyed.Ascending.find?_eq_some_iff` — what is found is what is there.
* `Keyed.insert_comm` — the order in which values are put in does not matter.
-/

namespace SnapshotViewer.Keyed

variable {α : Type} {xs : List (String × α)} {name other : String} {value : α}

theorem eq_or_mem_of_mem_insert {x : String × α} (h : x ∈ insert name value xs) :
    x = (name, value) ∨ x ∈ xs := by
  induction xs with
  | nil => exact .inl (List.mem_singleton.1 h)
  | cons y ys ih =>
    rw [insert] at h
    grind

/-- The names still ascend when a value is put in. -/
theorem Ascending.insert (h : Ascending xs) (name : String) (value : α) :
    Ascending (Keyed.insert name value xs) := by
  induction xs with
  | nil => exact List.pairwise_singleton _ _
  | cons y ys ih =>
    obtain ⟨hhead, htail⟩ := List.pairwise_cons.1 h
    rw [Keyed.insert]
    split
    · next hlt =>
      refine List.pairwise_cons.2 ⟨fun x hx => ?_, h⟩
      rcases List.mem_cons.1 hx with rfl | hx
      · exact hlt
      · exact String.lt_trans hlt (hhead x hx)
    · next hge =>
      split
      · next heq => exact List.pairwise_cons.2 ⟨fun x hx => heq ▸ hhead x hx, htail⟩
      · next hne =>
        refine List.pairwise_cons.2 ⟨fun x hx => ?_, ih htail⟩
        rcases eq_or_mem_of_mem_insert hx with rfl | hx
        · exact ((Std.lt_trichotomy name y.1).resolve_left hge).resolve_left hne
        · exact hhead x hx

/-- What is found under a name is what is there under it. -/
theorem Ascending.find?_eq_some_iff (h : Ascending xs) :
    find? name xs = some value ↔ (name, value) ∈ xs := by
  induction xs with
  | nil => simp [find?]
  | cons y ys ih =>
    obtain ⟨hhead, htail⟩ := List.pairwise_cons.1 h
    obtain ⟨n, v⟩ := y
    rw [find?, List.lookup_cons]
    by_cases hn : name = n
    · subst hn
      have hnot : (name, value) ∉ ys := fun hmem => String.lt_irrefl name (hhead (name, value) hmem)
      simp [hnot, eq_comm]
    · rw [beq_false_of_ne hn]
      simpa [find?, hn] using ih htail

/-- Values under different names may be put in in any order. -/
theorem insert_comm (hne : name ≠ other) (value w : α) (xs : List (String × α)) :
    insert name value (insert other w xs) = insert other w (insert name value xs) := by
  induction xs with
  | nil => grind [insert]
  | cons y ys ih =>
    grind [insert]

end SnapshotViewer.Keyed
