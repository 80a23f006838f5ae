/-!
# Named values in order of their names

A list of names and values, the names ascending and each at most once.  Names are compared by
code point, which is also the order of their bytes.
-/

namespace SnapshotViewer

namespace Keyed
variable {α : Type}

/-- Puts a value under a name, in place of the value that was there. -/
def insert (name : String) (value : α) : List (String × α) → List (String × α)
  | [] => [(name, value)]
  | (n, v) :: rest =>
    if name < n then (name, value) :: (n, v) :: rest
    else if name = n then (name, value) :: rest
    else (n, v) :: insert name value rest

/-- The value under a name. -/
def find? (name : String) (xs : List (String × α)) : Option α := xs.lookup name

/-- Puts the values in one after another; of two under one name the later stays. -/
def ofList (xs : List (String × α)) : List (String × α) :=
  xs.foldl (fun acc x => insert x.1 x.2 acc) []

@[simp] theorem find?_insert (n m : String) (v : α) (xs : List (String × α)) :
    find? n (insert m v xs) = if n = m then some v else find? n xs := by
  induction xs with
  | nil =>
    by_cases h : n = m
    · simp [insert, find?, h]
    · simp [insert, find?, List.lookup_cons, beq_false_of_ne h, h]
  | cons x rest ih =>
    obtain ⟨k, w⟩ := x
    unfold find? at ih ⊢
    by_cases h : n = m <;> by_cases hk : n = k <;> grind [insert]

/-- The names ascend, so each occurs once. -/
def Ascending (xs : List (String × α)) : Prop := xs.Pairwise (·.1 < ·.1)

end Keyed

end SnapshotViewer
