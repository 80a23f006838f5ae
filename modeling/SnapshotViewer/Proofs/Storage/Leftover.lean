import SnapshotViewer.Proofs.Storage.Atomic

/-!
# What a save leaves beside the file

A new address is written beside the file and then moved.  Once it is written, moving it is all that
takes it away again.  So a save that fails before it writes leaves nothing beside the file, and one
that succeeds does not either; but what is written and cannot be moved, because a folder is in the
place of the file, stays there, and so does what a save has written that the environment stops.

## Main statements

* `node?_scratch_stopped` — what a stopped save leaves beside the file.
* `left_beside_iff` — what a save leaves beside the file, and when.
* `left_beside_folder` — an address that is left beside a folder.
-/

namespace SnapshotViewer.AddressFile

variable {fs : Files} {p : Path} {a : Address}

/-- No file is in the place of a folder on the way to the file. -/
def WayFree (fs : Files) (p : Path) : Prop := ∀ q, q <+: p.dropLast → fs.read? q = none

/-- What a stopped save leaves beside the file is what it has written there. -/
theorem node?_scratch_stopped (hp : Allowed p) (hclean : fs.node? (scratch p) = none)
    (a : Address) (stop : Stop) (n : Node) :
    (stopped fs p a stop).node? (scratch p) = some n ↔
      ∃ count, stop = .written count ∧ WayFree fs p ∧ n = .file ((content a).take count) := by
  obtain ⟨folder, name, beside, rfl, hscratch, -⟩ := hp.exists_names
  have hfolder : (folder ++ [name]).dropLast = folder := List.dropLast_concat
  rw [hscratch] at hclean
  -- the file beside is in the last of the folders that are made, and is none of them
  have hmade : ∀ {gs : Files} {q : Path}, q <+: folder → fs.makeFolders q = some gs →
      gs.node? (folder ++ [beside]) = none := by
    intro gs q hq hmake
    rw [Files.node?_makeFolders hmake,
      if_neg fun h => not_prefix_of_concat folder beside (h.trans hq), hclean]
  cases stop with
  | folders made =>
    have hnone : (stopped fs (folder ++ [name]) a (.folders made)).node? (folder ++ [beside]) =
        none := by
      rw [stopped, hfolder]
      cases hmake : fs.makeFolders (folder.take made) with
      | none => exact hclean
      | some gs => exact hmade (List.take_prefix made folder) hmake
    simp [hscratch, hnone]
  | written count =>
    have hway : WayFree fs (folder ++ [name]) ↔ (fs.makeFolders folder).isSome = true := by
      rw [WayFree, hfolder, Files.isSome_makeFolders_iff]
    rw [hway, stopped, hfolder, hscratch]
    cases hmake : fs.makeFolders folder with
    | none => simp [hclean]
    | some gs =>
      have hin : gs.node? (folder ++ [beside]).dropLast = some .folder := by
        rw [List.dropLast_concat, Files.node?_makeFolders hmake, if_pos List.prefix_rfl]
      have hbeside := hmade List.prefix_rfl hmake
      obtain ⟨-, hwrite⟩ : _ ∧ gs.write (folder ++ [beside]) ((content a).take count) = _ :=
        (Files.write_cases hin _).resolve_right fun h => by simp [hbeside] at h
      have hput : (gs.put (folder ++ [beside]) (.file ((content a).take count))).node?
          (folder ++ [beside]) = some (.file ((content a).take count)) := by
        rw [Files.node?_put_of_ne_nil (by simp), if_pos rfl]
      simp only [hwrite, Option.getD_some, hput, Option.some.injEq, Option.isSome_some, true_and,
        Stop.written.injEq, exists_eq_left']
      exact eq_comm

/-- A save that succeeds leaves nothing beside the file, whatever was there. -/
theorem node?_scratch_of_saved (hp : Allowed p) (h : (save fs p a).2 = true) :
    (save fs p a).1.node? (scratch p) = none := by
  rcases save_cases hp fs a with ⟨-, -, hnode⟩ | ⟨-, hfail, -⟩
  · have hne : scratch p ≠ p := by
      obtain ⟨folder, name, beside, rfl, hscratch, hne⟩ := hp.exists_names
      rw [hscratch]
      simpa using hne.symm
    rw [hnode, if_neg hne, if_pos rfl]
  · simp [hfail] at h

/-- With nothing beside the file, only a file on the way or a folder in its place is in the way. -/
theorem canSave_iff_of_clean (hclean : fs.node? (scratch p) = none) :
    CanSave fs p ↔ WayFree fs p ∧ fs.node? p ≠ some .folder :=
  ⟨fun h => ⟨h.way, h.target⟩, fun h => ⟨h.1, by simp [hclean], h.2⟩⟩

/-- A save leaves something beside the file exactly if it comes to write there and finds a folder in
the place of the file: then it leaves all that it has written.  A save that is stopped leaves what
it has written so far, and the next one that succeeds takes away what is left. -/
theorem left_beside_iff (hp : Allowed p) (hclean : fs.node? (scratch p) = none) (a : Address) :
    (∀ n, (save fs p a).1.node? (scratch p) = some n ↔
      n = .file (content a) ∧ WayFree fs p ∧ fs.node? p = some .folder) ∧
    (∀ stop n, (stopped fs p a stop).node? (scratch p) = some n ↔
      ∃ count, stop = .written count ∧ WayFree fs p ∧ n = .file ((content a).take count)) ∧
    ∀ gs b, (save gs p b).2 = true → (save gs p b).1.node? (scratch p) = none := by
  refine ⟨fun n => ?_, node?_scratch_stopped hp hclean a, fun gs b => node?_scratch_of_saved hp⟩
  rcases save_cases hp fs a with ⟨hcan, hsave, -⟩ | ⟨hcan, -, hstopped⟩
  · have htarget := ((canSave_iff_of_clean hclean).1 hcan).2
    simp [node?_scratch_of_saved hp hsave, htarget]
  · rw [hstopped, node?_scratch_stopped hp hclean]
    rw [canSave_iff_of_clean hclean, not_and, not_not] at hcan
    constructor
    · rintro ⟨count, hcount, hway, rfl⟩
      rw [← Stop.written.inj hcount, List.take_length]
      exact ⟨rfl, hway, hcan hway⟩
    · rintro ⟨rfl, hway, -⟩
      exact ⟨_, rfl, hway, by rw [List.take_length]⟩

/-- In a folder that is not there yet nothing is left beside the file by a save, and its first byte
is left by one that is stopped behind it. -/
theorem left_beside_iff_of_new_folder :
    let p : Path := ["data", "address"]
    Allowed p ∧ ({} : Files).node? (scratch p) = none ∧
      (save {} p { tab := .pga }).2 = true ∧
      (save {} p { tab := .pga }).1.node? (scratch p) = none ∧
      (stopped {} p { tab := .pga } (.written 1)).node? (scratch p) = some (.file [0x74]) := by
  intro p
  have hp : Allowed p := ⟨["data"], "address", rfl, by decide, by decide⟩
  have hclean : ({} : Files).node? (scratch p) = none := rfl
  have hleft := left_beside_iff hp hclean { tab := .pga }
  have hway : WayFree {} p := by
    intro q hq
    cases q <;> rfl
  have hsaved : (save {} p { tab := .pga }).2 = true := by decide +kernel
  exact ⟨hp, hclean, hsaved, hleft.2.2 {} _ hsaved,
    (hleft.2.1 (.written 1) _).2 ⟨1, rfl, hway, by decide +kernel⟩⟩

/-- Over a folder an address cannot be saved, and it is left beside the folder. -/
theorem left_beside_folder :
    let p : Path := ["data", "address"]
    let fs : Files := { nodes := [(["data"], .folder), (p, .folder)] }
    Allowed p ∧ fs.node? (scratch p) = none ∧ (save fs p { tab := .pga }).2 = false ∧
      (save fs p { tab := .pga }).1.read? (scratch p) = some (Text.encode "tab=pga\n") :=
  ⟨⟨["data"], "address", rfl, by decide, by decide⟩, by decide, by decide +kernel,
    by decide +kernel⟩

end SnapshotViewer.AddressFile
