import SnapshotViewer.Storage.AddressFile

/-!
# What saving an address leaves behind

## Main statements

* `AddressFile.read?_save` — a file that an address was saved to holds its written form.
-/

namespace SnapshotViewer

namespace Files
variable {fs gs : Files} {p q : Path} {content : List UInt8}

/-- The root is a folder, so no file can be put there. -/
theorem ne_nil_of_accepts (h : fs.accepts p = true) : p ≠ [] := by
  rintro rfl
  simp [accepts, node?] at h

theorem read?_put (hp : p ≠ []) : (fs.put p (.file content)).read? p = some content := by
  simp [read?, hp]

theorem write_eq_some (h : fs.write p content = some gs) :
    p ≠ [] ∧ gs = fs.put p (.file content) := by
  unfold write at h
  split at h
  · next haccepts => exact ⟨ne_nil_of_accepts haccepts, (Option.some.inj h).symm⟩
  · cases h

theorem read?_write (h : fs.write p content = some gs) : gs.read? p = some content := by
  obtain ⟨hp, rfl⟩ := write_eq_some h
  exact read?_put hp

/-- A file keeps its content when it is moved. -/
theorem read?_move (h : fs.move p q = some gs) : gs.read? q = fs.read? p := by
  unfold move at h
  cases hnode : fs.node? p with
  | none => simp [hnode] at h
  | some node =>
    cases node with
    | folder => simp [hnode] at h
    | file content =>
      have hread : fs.read? p = some content := by simp [read?, hnode]
      simp only [hnode] at h
      by_cases hsame : p = q
      · obtain rfl : fs = gs := by simpa [hsame] using h
        rw [hsame]
      · obtain ⟨haccepts, rfl⟩ : fs.accepts q = true ∧
            (fs.remove p).put q (.file content) = gs := by
          simpa [hsame] using h
        rw [hread]
        exact read?_put (ne_nil_of_accepts haccepts)

end Files

/-- A file that an address was saved to holds its written form. -/
theorem AddressFile.read?_save {fs : Files} {p : Path} {a : Address}
    (h : (save fs p a).2 = true) : (save fs p a).1.read? p = some (content a) := by
  unfold save at h ⊢
  cases hfolders : fs.makeFolders p.dropLast with
  | none => simp [hfolders] at h
  | some fs =>
    cases hwrite : fs.write (scratch p) (content a) with
    | none => simp [hfolders, hwrite] at h
    | some fs =>
      cases hmove : fs.move (scratch p) p with
      | none => simp [hfolders, hwrite, hmove] at h
      | some fs =>
        have hread : fs.read? p = some (content a) := by
          rw [Files.read?_move hmove, Files.read?_write hwrite]
        simpa [hwrite, hmove] using hread

end SnapshotViewer
