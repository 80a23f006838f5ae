import SnapshotViewer.Proofs.Run
import SnapshotViewer.Proofs.Storage.AddressFile
import SnapshotViewer.Proofs.Viewer.Step

/-!
# The parts of a viewer in step, and the address file

A viewer keeps the same things in several places: the snapshot in the store and in the navigator,
the address in the navigator and in a file.  Each handler brings them in step again before it
ends, so they agree behind every handler, as long as the address can be saved.

An address that could not be saved is not tried again: the note that there is something to save is
taken away before the saving, and does not come back when that fails.  So a handler saves exactly
if it has changed the address itself (`save_apply`).

## Main definitions

* `newAddress?` — the address that something leads to, if it is another one.
* `UpToDate` — the file holds the address of the navigator.
* `InStep` — how the parts of a viewer agree behind a run.
* `SavedOnce` — what becomes of an address that could not be saved.

## Main statements

* `save_apply` — when an address is saved.
* `parts_in_step` — the parts agree if the address could be saved each time.
* `savedOnce_run` — when the file is up to date otherwise.
-/

namespace SnapshotViewer.Viewer

/-- The address that something leads to, if it is another one than before. -/
def newAddress? (state : Viewer × Files) (op : ViewerOp) : Option Address :=
  let address := (apply state op).1.nav.address
  if address = state.1.nav.address then none else some address

/-- The address file holds the address of the navigator. -/
def UpToDate (path : Path) (state : Viewer × Files) : Prop :=
  state.2.read? path = some (AddressFile.content state.1.nav.address)

instance (path : Path) (state : Viewer × Files) : Decidable (UpToDate path state) :=
  inferInstanceAs (Decidable (_ = _))

variable {v w : Viewer} {fs : Files} {op : ViewerOp} {path : Path}

theorem newAddress?_eq_none : newAddress? (v, fs) op = none ↔
    (apply (v, fs) op).1.nav.address = v.nav.address := by
  simp [newAddress?]

/-! ## One step -/

/-- A viewer with nothing left to save stays so, and goes on saving to the same file. -/
theorem clean_apply (hclean : v.nav.dirty = false) :
    (apply (v, fs) op).1.nav.dirty = false ∧
      (apply (v, fs) op).1.addressFile = v.addressFile := by
  have hstep := step_work v op
  cases hs : v.saves op with
  | true =>
    rw [(apply_of_saves hs).1, viewer_persist]
    exact ⟨rfl, hstep.addressFile⟩
  | false =>
    rw [(apply_of_not_saves hs).1, nav_work_of_not_saves hs]
    exact ⟨hclean, hstep.addressFile⟩

/-- With nothing left to save from before, the work of a handler notes a new address and nothing
else. -/
theorem dirty_work (hclean : v.nav.dirty = false) (op : ViewerOp) :
    (v.work op).nav.dirty = decide ((v.work op).nav.address ≠ v.nav.address) := by
  rcases (step_work v op).nav with ⟨hnav, -⟩ | ⟨x, hx, hnav, -⟩
  · simp [hnav, hclean]
  · rw [hnav, Navigator.dirty_apply v.nav hx, hclean, Bool.false_or]

/-- With nothing left to save from before, an address is saved exactly if it is new: either the
address is as before, and nothing is saved, or it is another one, and saving it is tried. -/
theorem save_apply (hclean : v.nav.dirty = false) (hpath : v.addressFile = some path)
    (fs : Files) (op : ViewerOp) :
    newAddress? (v, fs) op = none ∧ saved? (v, fs) op = none ∧
        (apply (v, fs) op).2 = op.rearranged fs ∨
      newAddress? (v, fs) op = some (apply (v, fs) op).1.nav.address ∧
        saved? (v, fs) op =
          some (AddressFile.save fs path (apply (v, fs) op).1.nav.address).2 ∧
        (apply (v, fs) op).2 =
          (AddressFile.save fs path (apply (v, fs) op).1.nav.address).1 := by
  cases hs : v.saves op with
  | false =>
    obtain ⟨happly, hsaved⟩ : apply (v, fs) op = _ ∧ saved? (v, fs) op = _ :=
      apply_of_not_saves hs
    have hnav : (apply (v, fs) op).1.nav = v.nav := by
      rw [happly]
      exact nav_work_of_not_saves hs
    exact .inl ⟨newAddress?_eq_none.2 (by rw [hnav]), hsaved, by rw [happly]⟩
  | true =>
    obtain ⟨happly, hsaved⟩ : apply (v, fs) op = _ ∧ saved? (v, fs) op = _ := apply_of_saves hs
    have haddress : (apply (v, fs) op).1.nav.address = (v.work op).nav.address := by
      rw [happly, viewer_persist]
    have hfile : (v.work op).addressFile = some path :=
      (step_work v op).addressFile.trans hpath
    by_cases hsame : (v.work op).nav.address = v.nav.address
    · have hquiet : (v.work op).nav.dirty = false := by simp [dirty_work hclean, hsame]
      refine .inl ⟨newAddress?_eq_none.2 (haddress.trans hsame), ?_, ?_⟩
      · rw [hsaved, persist_of_clean hquiet]
      · rw [happly, persist_of_clean hquiet, rearranged_of_saves hs]
    · have hnoted : (v.work op).nav.dirty = true := by simp [dirty_work hclean, hsame]
      obtain ⟨hfiles, hsucceeded⟩ : ((v.work op).persist fs).files = _ ∧ _ :=
        persist_of_dirty hnoted hfile
      refine .inr ⟨?_, ?_, ?_⟩
      · simp [newAddress?, haddress, hsame]
      · rw [hsaved, hsucceeded, haddress]
      · rw [haddress, happly, ← hfiles]

/-- Behind a handler that can save the address, the file is up to date if the handler has changed
the address, or if it was up to date before. -/
theorem upToDate_apply (hclean : v.nav.dirty = false) (hpath : v.addressFile = some path)
    (hop : op.rearranged fs = fs)
    (hsave : (AddressFile.save fs path (apply (v, fs) op).1.nav.address).2 = true) :
    UpToDate path (apply (v, fs) op) ↔
      newAddress? (v, fs) op ≠ none ∨ UpToDate path (v, fs) := by
  rcases save_apply hclean hpath fs op with ⟨hsame, -, hfiles⟩ | ⟨hnew, -, hfiles⟩
  · have haddress := newAddress?_eq_none.1 hsame
    simp [UpToDate, hfiles, hop, haddress, hsame]
  · have hread := AddressFile.read?_save hsave
    rw [← hfiles] at hread
    simp [hnew, UpToDate, hread]

/-! ## Runs -/

variable {state : Viewer × Files} {ops : List ViewerOp}

theorem current_run (h : state.1.store.current = state.1.nav.current) (ops : List ViewerOp) :
    (run state ops).1.store.current = (run state ops).1.nav.current := by
  induction ops generalizing state with
  | nil => exact h
  | cons op ops ih =>
    obtain ⟨v, fs⟩ := state
    refine ih ?_
    rw [(store_apply v fs op).1, nav_current_apply, h]

theorem generation_run (state : Viewer × Files) (ops : List ViewerOp) :
    (run state ops).1.store.generation =
      state.1.store.generation + (gather apply (fun s => s.1.shows?) state ops).length := by
  induction ops generalizing state with
  | nil => rfl
  | cons op ops ih =>
    obtain ⟨v, fs⟩ := state
    have hrun : run (v, fs) (op :: ops) = run (apply (v, fs) op) ops := rfl
    rw [hrun, ih, gather_cons, List.length_append, (store_apply v fs op).2.1, Nat.add_assoc]

theorem nav_run (state : Viewer × Files) (ops : List ViewerOp) :
    ∃ xs, (run state ops).1.nav = state.1.nav.run xs ∧
      xs.filterMap NavigatorOp.snapshot? = gather apply (fun s => s.1.shows?) state ops := by
  induction ops generalizing state with
  | nil => exact ⟨[], rfl, rfl⟩
  | cons op ops ih =>
    obtain ⟨v, fs⟩ := state
    obtain ⟨xs, hfirst, hshown⟩ := nav_apply v fs op
    obtain ⟨ys, hlater, hlatershown⟩ := ih (apply (v, fs) op)
    refine ⟨xs ++ ys, ?_, ?_⟩
    · rw [Navigator.run_append, ← hfirst]
      exact hlater
    · rw [List.filterMap_append, hshown, hlatershown]
      rfl

theorem clean_run (hclean : state.1.nav.dirty = false) (ops : List ViewerOp) :
    (run state ops).1.nav.dirty = false ∧
      (run state ops).1.addressFile = state.1.addressFile := by
  induction ops generalizing state with
  | nil => exact ⟨hclean, rfl⟩
  | cons op ops ih =>
    obtain ⟨v, fs⟩ := state
    obtain ⟨hfirst, hfile⟩ : (apply (v, fs) op).1.nav.dirty = false ∧ _ := clean_apply hclean
    obtain ⟨hlater, hlaterfile⟩ := ih hfirst
    exact ⟨hlater, hlaterfile.trans hfile⟩

/-- Nothing but the viewer changes the file at a path. -/
def Undisturbed (path : Path) (ops : List ViewerOp) : Prop :=
  ∀ op ∈ ops, ∀ fs, (op.rearranged fs).node? path = fs.node? path

/-- As long as the address stays as it is, nothing is saved. -/
theorem file_of_same_address (hclean : state.1.nav.dirty = false)
    (hpath : state.1.addressFile = some path) (hfiles : Undisturbed path ops)
    (hsame : gather apply newAddress? state ops = []) :
    (run state ops).1.nav.address = state.1.nav.address ∧
      gather apply saved? state ops = [] ∧
      (run state ops).2.node? path = state.2.node? path := by
  induction ops generalizing state with
  | nil => exact ⟨rfl, rfl, rfl⟩
  | cons op ops ih =>
    obtain ⟨v, fs⟩ := state
    obtain ⟨hop, hfiles⟩ := List.forall_mem_cons.1 hfiles
    obtain ⟨hnow, hlater⟩ := List.append_eq_nil_iff.1 hsame
    have hfirst : newAddress? (v, fs) op = none := by simpa using hnow
    obtain ⟨hstill, hfile⟩ : (apply (v, fs) op).1.nav.dirty = false ∧ _ := clean_apply hclean
    obtain ⟨haddress, hunsaved, hnode⟩ := ih hstill (hfile.trans hpath) hfiles hlater
    rcases save_apply hclean hpath fs op with ⟨-, hsaved, happly⟩ | ⟨hnew, -⟩
    · refine ⟨haddress.trans (newAddress?_eq_none.1 hfirst), ?_, ?_⟩
      · rw [gather_cons, hsaved, hunsaved]
        rfl
      · rw [← hop fs, ← happly]
        exact hnode
    · rw [hfirst] at hnew
      cases hnew

/-- Nor does anything else happen to the file then. -/
theorem upToDate_of_same_address (hclean : state.1.nav.dirty = false)
    (hpath : state.1.addressFile = some path) (hfiles : Undisturbed path ops)
    (hsame : gather apply newAddress? state ops = []) :
    UpToDate path (run state ops) ↔ UpToDate path state := by
  obtain ⟨haddress, -, hnode⟩ := file_of_same_address hclean hpath hfiles hsame
  rw [UpToDate, UpToDate, Files.read?, Files.read?, haddress, hnode]

/-- Once the address has changed, the file is up to date, if saving never failed. -/
theorem upToDate_of_new_address (hclean : state.1.nav.dirty = false)
    (hpath : state.1.addressFile = some path) (hfiles : Undisturbed path ops)
    (hsaved : false ∉ gather apply saved? state ops)
    (hnew : gather apply newAddress? state ops ≠ []) : UpToDate path (run state ops) := by
  induction ops generalizing state with
  | nil => exact absurd rfl hnew
  | cons op ops ih =>
    obtain ⟨v, fs⟩ := state
    obtain ⟨-, hfiles⟩ := List.forall_mem_cons.1 hfiles
    rw [gather_cons, List.mem_append, not_or] at hsaved
    obtain ⟨hstill, hfile⟩ : (apply (v, fs) op).1.nav.dirty = false ∧ _ := clean_apply hclean
    by_cases hlater : gather apply newAddress? (apply (v, fs) op) ops = []
    · -- The last new address is the one of this step.
      have hlast := upToDate_of_same_address hstill (hfile.trans hpath) hfiles hlater
      refine hlast.2 ?_
      rcases save_apply hclean hpath fs op with ⟨hsame, -⟩ | ⟨-, htried, happly⟩
      · refine absurd ?_ hnew
        rw [gather_cons, hsame, hlater]
        rfl
      · rw [htried] at hsaved
        rw [UpToDate, happly]
        exact AddressFile.read?_save (by simpa using hsaved.1)
    · exact ih hstill (hfile.trans hpath) hfiles hsaved.2 hlater

/-! ## Runs from the start -/

/-- How the parts of a viewer agree behind a run. -/
structure InStep (state : Viewer × Files) (ops : List ViewerOp) : Prop where
  /-- The store and the navigator hold the same snapshot. -/
  current : (run state ops).1.store.current = (run state ops).1.nav.current
  /-- The store has counted the snapshots that were shown. -/
  generation : (run state ops).1.store.generation =
    (gather apply (fun s => s.1.shows?) state ops).length
  /-- The navigator was given these snapshots, in this order, and no others. -/
  given : ∃ xs, (run state ops).1.nav = state.1.nav.run xs ∧
    xs.filterMap NavigatorOp.snapshot? = gather apply (fun s => s.1.shows?) state ops
  /-- The navigator has nothing left to hand out. -/
  taken : (run state ops).1.nav.takeUpdate.2 = none
  /-- If the address was the same all along, the file was left alone. -/
  untouched : ∀ path, state.1.addressFile = some path →
    gather apply newAddress? state ops = [] →
      gather apply saved? state ops = [] ∧ (run state ops).2.node? path = state.2.node? path
  /-- Otherwise it holds the address. -/
  saved : ∀ path, state.1.addressFile = some path →
    gather apply newAddress? state ops ≠ [] → UpToDate path (run state ops)

/-- The parts of a viewer agree behind every run in which each address could be saved and nothing
else changed the file. -/
theorem parts_in_step (catalog : Catalog) (seed : Address) (source : Source) (session : Session)
    (addressFile : Option Path) (fs : Files) (ops : List ViewerOp)
    (hfiles : ∀ path, addressFile = some path → Undisturbed path ops)
    (hsaved : false ∉
      gather apply saved? (start (Navigator.start catalog seed) source session addressFile, fs)
        ops) :
    InStep (start (Navigator.start catalog seed) source session addressFile, fs) ops := by
  generalize hstate :
    (start (Navigator.start catalog seed) source session addressFile, fs) = state at hsaved
  have hclean : state.1.nav.dirty = false := by rw [← hstate]; rfl
  have hcurrent : state.1.store.current = state.1.nav.current := by rw [← hstate]; rfl
  have hgeneration : state.1.store.generation = 0 := by rw [← hstate]; rfl
  have hfile : state.1.addressFile = addressFile := by rw [← hstate]; rfl
  exact
    { current := current_run hcurrent ops
      generation := by rw [generation_run, hgeneration, Nat.zero_add]
      given := nav_run state ops
      taken := by rw [Navigator.takeUpdate_of_clean (clean_run hclean ops).1]
      untouched := fun path hpath hsame =>
        (file_of_same_address hclean hpath (hfiles path (hfile ▸ hpath)) hsame).2
      saved := fun path hpath hnew =>
        upToDate_of_new_address hclean hpath (hfiles path (hfile ▸ hpath)) hsaved hnew }

/-- A snapshot is shown, a tab chosen and the feed paused, and a second snapshot is held back. -/
theorem parts_in_step_of_pause :
    let path : Path := ["data", "address"]
    let viewer := start (Navigator.start { mode := .live } {}) (.live {}) { baseUrl := "" } path
    let press (c : Char) : ViewerOp := .key 0 { code := .char c }
    let ops := [.event (.snapshot { timestamp := 1000 }), press '2', press ' ',
      .event (.snapshot { timestamp := 1010 })]
    ((run (viewer, {}) ops).1.store.current = some { timestamp := 1000 } ∧
        (run (viewer, {}) ops).2.read? path =
          some (Text.encode "tab=pga&timestamp=1000\n")) ∧
      (∀ p, some path = some p → Undisturbed p ops) ∧
      false ∉ gather apply saved? (viewer, {}) ops ∧ InStep (viewer, {}) ops := by
  intro path viewer press ops
  have hfiles : ∀ p, some path = some p → Undisturbed p ops := by
    simp [ops, press, Undisturbed, ViewerOp.rearranged]
  have hsaved : false ∉ gather apply saved? (viewer, {}) ops := by decide +kernel
  exact ⟨by decide +kernel, hfiles, hsaved, parts_in_step _ _ _ _ _ _ ops hfiles hsaved⟩

/-- A new address is tried to be saved once, in the step that brings it. -/
structure SavedOnce (path : Path) (state : Viewer × Files) : Prop where
  /-- Even if it could be saved in a step, it is only if it is new then, or was saved before. -/
  step : ∀ op, (∀ change, op ≠ .rearrange change) →
    (AddressFile.save state.2 path (apply state op).1.nav.address).2 = true →
      (UpToDate path (apply state op) ↔ newAddress? state op ≠ none ∨ UpToDate path state)
  /-- The end of the program makes no difference to the file. -/
  shutdown : UpToDate path
      ((state.1.shutdown state.2).viewer, (state.1.shutdown state.2).files) ↔
    UpToDate path state
  /-- Nor does any run that keeps to the address. -/
  later : ∀ ops, Undisturbed path ops → gather apply newAddress? state ops = [] →
    (UpToDate path (run state ops) ↔ UpToDate path state)

theorem rearranged_of_ne (h : ∀ change, op ≠ .rearrange change) (fs : Files) :
    op.rearranged fs = fs := by
  cases op with
  | rearrange change => exact absurd rfl (h change)
  | _ => rfl

theorem files_shutdown (h : v.nav.dirty = false) (fs : Files) :
    (v.shutdown fs).files = fs ∧ (v.shutdown fs).viewer.nav = v.nav := by
  unfold shutdown
  rw [persist_of_clean h]
  exact ⟨rfl, rfl⟩

/-- Whatever happens to the viewer and to the files, however often saving fails: an address that
could not be saved is not saved later, until there is another one. -/
theorem savedOnce_run (catalog : Catalog) (seed : Address) (source : Source) (session : Session)
    (path : Path) (fs : Files) (ops : List ViewerOp) :
    SavedOnce path
      (run (start (Navigator.start catalog seed) source session path, fs) ops) := by
  obtain ⟨hclean, hpath⟩ :
      (run (start (Navigator.start catalog seed) source session path, fs) ops).1.nav.dirty = false ∧
        _ := clean_run rfl ops
  generalize run (start (Navigator.start catalog seed) source session path, fs) ops = state at *
  obtain ⟨v, fs⟩ := state
  refine ⟨fun op hop hsave => upToDate_apply hclean hpath (rearranged_of_ne hop fs) hsave, ?_,
    fun ops hfiles hsame => upToDate_of_same_address hclean hpath hfiles hsame⟩
  obtain ⟨hfiles, hnav⟩ := files_shutdown hclean fs
  rw [UpToDate, UpToDate, hfiles, hnav]

/-- A tab is chosen while there is a file in the place of the folder.  When there is a folder, the
next key saves nothing, nor does the end of the program. -/
theorem not_upToDate_of_failed_save :
    let path : Path := ["data", "address"]
    let viewer := start (Navigator.start { mode := .live } {}) (.live {}) { baseUrl := "" } path
    let blocked : Files := { nodes := [(["data"], .file [])] }
    let press (c : Char) : ViewerOp := .key 0 { code := .char c }
    let state := run (viewer, blocked) [press '2', .rearrange (·.put ["data"] .folder)]
    let next := apply state (press '?')
    let ended := next.1.shutdown next.2
    saved? (viewer, blocked) (press '2') = some false ∧
      (AddressFile.save state.2 path next.1.nav.address).2 = true ∧ ¬UpToDate path next ∧
      (AddressFile.save next.2 path ended.viewer.nav.address).2 = true ∧
      ¬UpToDate path (ended.viewer, ended.files) := by
  decide +kernel

end SnapshotViewer.Viewer
