import SnapshotViewer.Proofs.Address.RoundTrip
import SnapshotViewer.Proofs.Run
import SnapshotViewer.Proofs.Storage.AddressFile
import SnapshotViewer.Proofs.Storage.Folders
import SnapshotViewer.Proofs.Text.Utf8

/-!
# Saving an address is atomic

Nothing is written to the address file itself: a new address is written beside it and moved into its
place in one go.  So wherever a save ends that does not succeed, be it because of what is in the
way (`save_cases`) or because the environment stops it (`stopped`), the file is as it was.

A save that fails by itself leaves what a stopped one leaves, so what holds of the stopped ones
holds of it.

## Main definitions

* `Allowed` — a path that is not the one that a new address is written to first.
* `Stop`, `stopped` — what a save leaves that is stopped by the environment.
* `CanSave` — nothing is in the way of a save.
* `Atomic` — an address is saved as a whole, or the file stays as it was.
* `Act`, `apply` — what can happen to the file.
* `puts` — what there is to load behind an act that gives the file a new content.

## Main statements

* `save_cases` — all that a save can do.
* `node?_stopped` — a stopped save touches the folders on the way and the file beside only.
* `load?_apply` — what can be loaded behind one act.
* `save_atomic` — saving is atomic, and what can be loaded is the last thing that was written.
-/

namespace SnapshotViewer.AddressFile

/-- The last name is that of a file, and it has not the extension of what is written beside it. -/
def Allowed (p : Path) : Prop :=
  ∃ folder name, p = folder ++ [name] ∧ name ≠ ".." ∧ Path.extension? name ≠ some "tmp"

/-- Where the environment stops a save: in the middle of making folders, or when some bytes of the
file beside are written. -/
inductive Stop where
  | folders (made : Nat)
  | written (count : Nat)
deriving DecidableEq, Repr

/-- What a stopped save leaves behind. -/
def stopped (fs : Files) (p : Path) (a : Address) : Stop → Files
  | .folders made => (fs.makeFolders (p.dropLast.take made)).getD fs
  | .written count =>
    match fs.makeFolders p.dropLast with
    | none => fs
    | some gs => (gs.write (scratch p) ((content a).take count)).getD gs

/-- Nothing is in the way of a save. -/
structure CanSave (fs : Files) (p : Path) : Prop where
  /-- No file is in the place of a folder on the way. -/
  way : ∀ q, q <+: p.dropLast → fs.read? q = none
  /-- No folder is in the place of the file beside. -/
  scratch : fs.node? (scratch p) ≠ some .folder
  /-- No folder is in the place of the file. -/
  target : fs.node? p ≠ some .folder

/-- The address that bytes hold, if they are a text. -/
def addressOf? (bytes : List UInt8) : Option Address :=
  (Text.decode? bytes).map fun text => Address.decode (Text.trim text)

variable {fs gs : Files} {p q : Path} {a : Address}

/-! ## What is loaded -/

theorem load?_eq (fs : Files) (p : Path) : load? fs p = (fs.read? p).bind addressOf? := by
  cases h : fs.read? p with
  | none => simp [load?, h]
  | some bytes =>
    cases hdecode : Text.decode? bytes <;> simp [load?, h, addressOf?, hdecode]

/-- What is loaded depends on what is found at the path only. -/
theorem load?_congr (h : gs.node? p = fs.node? p) : load? gs p = load? fs p := by
  rw [load?_eq, load?_eq, Files.read?, Files.read?, h]

/-- A written address holds no blank, so the end of its line is all that is cut off. -/
theorem trim_line (a : Address) : Text.trim (a.encode ++ "\n") = a.encode := by
  have hencode : ∀ c ∈ a.encode.toList, Text.isBlank c = false := fun c hc =>
    Form.isBlank_of_isTextual (Form.isTextual_of_mem_render hc)
  have hline : (a.encode ++ "\n").toList = [] ++ a.encode.toList ++ ['\n'] := by simp
  rw [Text.trim, hline, Text.trimChars_surrounded (by simp) hencode (List.all_eq_true.1 rfl),
    String.ofList_toList]

/-- What is saved of an address is loaded as its normal form. -/
theorem addressOf?_content (ha : a.InRange) : addressOf? (content a) = some a.normal := by
  rw [addressOf?, content, Text.decode?_encode, Option.map_some, trim_line,
    Address.decode_encode ha]

/-! ## The file and the one beside it -/

/-- The file beside has another name and is in the same folder. -/
theorem Allowed.exists_names (hp : Allowed p) : ∃ folder name beside,
    p = folder ++ [name] ∧ scratch p = folder ++ [beside] ∧ name ≠ beside := by
  obtain ⟨folder, name, rfl, hname, hextension⟩ := hp
  have hscratch : scratch (folder ++ [name]) = folder ++ [Path.stem name ++ "." ++ "tmp"] :=
    Path.withExtension_concat hname
  refine ⟨folder, name, _, rfl, hscratch, fun heq => ?_⟩
  have hsame : scratch (folder ++ [name]) = folder ++ [name] := by rw [hscratch, ← heq]
  exact Path.withExtension_ne hname (by decide) hextension hsame

theorem not_prefix_of_concat (folder : Path) (name : String) : ¬ folder ++ [name] <+: folder := by
  intro h
  have hle := h.length_le
  rw [List.length_append, List.length_singleton] at hle
  omega

theorem Allowed.not_prefix_dropLast (hp : Allowed p) : ¬ p <+: p.dropLast := by
  obtain ⟨folder, name, -, rfl, -, -⟩ := hp.exists_names
  rw [List.dropLast_concat]
  exact not_prefix_of_concat folder name

/-- A stopped save touches the folders on the way and the file beside, and nothing else. -/
theorem node?_stopped (hp : Allowed p) (hway : ¬ q <+: p.dropLast) (hq : q ≠ scratch p)
    (stop : Stop) : (stopped fs p a stop).node? q = fs.node? q := by
  have hscratch : scratch p ≠ [] := by
    obtain ⟨folder, name, beside, -, hscratch, -⟩ := hp.exists_names
    simp [hscratch]
  cases stop with
  | folders made =>
    have hway' : ¬ q <+: p.dropLast.take made := fun h => hway (h.trans (List.take_prefix made _))
    cases hmake : fs.makeFolders (p.dropLast.take made) with
    | none => simp [stopped, hmake]
    | some gs => simp [stopped, hmake, Files.node?_makeFolders hmake, hway']
  | written count =>
    cases hmake : fs.makeFolders p.dropLast with
    | none => simp [stopped, hmake]
    | some gs =>
      have hgs : gs.node? q = fs.node? q := by rw [Files.node?_makeFolders hmake, if_neg hway]
      cases hwrite : gs.write (scratch p) ((content a).take count) with
      | none => simp [stopped, hmake, hwrite, hgs]
      | some hs =>
        obtain ⟨-, rfl⟩ := Files.write_eq_some hwrite
        simp [stopped, hmake, hwrite, hgs, Files.node?_put_of_ne_nil hscratch, hq]

/-- What is found at the file and below it is not touched by a stopped save. -/
theorem node?_stopped_below (hp : Allowed p) (hq : p <+: q) (stop : Stop) :
    (stopped fs p a stop).node? q = fs.node? q := by
  refine node?_stopped hp (fun hway => hp.not_prefix_dropLast (hq.trans hway)) ?_ stop
  rintro rfl
  obtain ⟨folder, name, beside, rfl, hscratch, hne⟩ := hp.exists_names
  rw [hscratch, List.prefix_append_right_inj] at hq
  exact hne (by simpa using hq)

/-! ## All that a save can do -/

/-- A save puts the new address in the place of the file and leaves nothing beside it, or something
is in the way, and it ends like one that was stopped. -/
theorem save_cases (hp : Allowed p) (fs : Files) (a : Address) :
    (CanSave fs p ∧ (save fs p a).2 = true ∧ ∀ q, (save fs p a).1.node? q =
      if q = p then some (.file (content a))
      else if q = scratch p then none
      else if q <+: p.dropLast then some .folder
      else fs.node? q) ∨
    (¬ CanSave fs p ∧ (save fs p a).2 = false ∧
      (save fs p a).1 = stopped fs p a (.written (content a).length)) := by
  obtain ⟨folder, name, beside, rfl, hscratch, hne⟩ := hp.exists_names
  have hfolder : (folder ++ [name]).dropLast = folder := List.dropLast_concat
  cases hmake : fs.makeFolders folder with
  | none =>
    refine .inr ⟨fun h => ?_, by simp [save, hmake], by simp [save, stopped, hmake]⟩
    have hsome := Files.isSome_makeFolders_iff.2 (hfolder ▸ h.way)
    rw [hmake] at hsome
    cases hsome
  | some gs =>
    have hway : ∀ q, q <+: folder → fs.read? q = none :=
      Files.isSome_makeFolders_iff.1 (by rw [hmake]; rfl)
    have hgs := Files.node?_makeFolders hmake
    have hfound : gs.node? folder = some .folder := by rw [hgs, if_pos List.prefix_rfl]
    -- making the folders on the way does not touch what is in the last one
    have hin : ∀ other, gs.node? (folder ++ [other]) = fs.node? (folder ++ [other]) := by
      intro other
      rw [hgs, if_neg (not_prefix_of_concat folder other)]
    have hplace := Files.write_move_cases hne.symm hfound (content a)
    rw [hin, hin] at hplace
    rcases hplace with ⟨hbeside, hwrite⟩ | ⟨hs, hbeside, hwrite, ⟨htarget, hmove⟩ |
      ⟨ks, htarget, hmove, hnode⟩⟩
    · refine .inr ⟨fun h => h.scratch (by rwa [hscratch]), ?_, ?_⟩
      · simp [save, hmake, hscratch, hwrite]
      · simp [save, stopped, hmake, hscratch, hwrite]
    · refine .inr ⟨fun h => h.target htarget, ?_, ?_⟩
      · simp [save, hmake, hscratch, hwrite, hmove]
      · simp [save, stopped, hmake, hscratch, hwrite, hmove]
    · have hsave : save fs (folder ++ [name]) a = (ks, true) := by
        simp [save, hmake, hscratch, hwrite, hmove]
      refine .inl ⟨⟨by rwa [hfolder], by rwa [hscratch], htarget⟩, by rw [hsave], fun q => ?_⟩
      rw [hsave, hnode, hgs, hscratch, hfolder]

/-! ## One address -/

/-- What is promised of saving an address: it is saved as a whole, or the file stays as it was. -/
structure Atomic (fs : Files) (p : Path) (a : Address) : Prop where
  succeeds_iff : (save fs p a).2 = true ↔ CanSave fs p
  /-- The file holds the written form on a line, and nothing is left beside it. -/
  saved : (save fs p a).2 = true →
    (save fs p a).1.read? p = some (Text.encode (a.encode ++ "\n")) ∧
      (save fs p a).1.node? (scratch p) = none ∧ load? (save fs p a).1 p = some a.normal
  /-- What cannot be saved leaves the file, or what is there instead, as it was. -/
  failed : (save fs p a).2 = false →
    (∀ q, p <+: q → (save fs p a).1.node? q = fs.node? q) ∧
      load? (save fs p a).1 p = load? fs p
  /-- So does a save that is stopped, wherever that is. -/
  stopped : ∀ stop, (∀ q, p <+: q → (stopped fs p a stop).node? q = fs.node? q) ∧
    load? (stopped fs p a stop) p = load? fs p

theorem load?_stopped (hp : Allowed p) (fs : Files) (a : Address) (stop : Stop) :
    load? (stopped fs p a stop) p = load? fs p :=
  load?_congr (node?_stopped_below hp List.prefix_rfl stop)

theorem load?_save (hp : Allowed p) (ha : a.InRange) (fs : Files) :
    load? (save fs p a).1 p = if (save fs p a).2 then some a.normal else load? fs p := by
  rcases save_cases hp fs a with ⟨-, hsave, -⟩ | ⟨-, hsave, hstopped⟩
  · rw [load?_eq, read?_save hsave, hsave]
    exact addressOf?_content ha
  · rw [hstopped, load?_stopped hp, hsave]
    rfl

theorem atomic_save (hp : Allowed p) (ha : a.InRange) (fs : Files) : Atomic fs p a where
  succeeds_iff := by
    rcases save_cases hp fs a with ⟨hcan, hsave, -⟩ | ⟨hcan, hsave, -⟩ <;> simp [hcan, hsave]
  saved := by
    intro hsave
    refine ⟨read?_save hsave, ?_, by rw [load?_save hp ha, if_pos hsave]⟩
    obtain ⟨folder, name, beside, rfl, hscratch, hne⟩ := hp.exists_names
    rcases save_cases hp fs a with ⟨-, -, hnode⟩ | ⟨-, hfail, -⟩
    · rw [hnode, if_neg (by simpa [hscratch] using hne.symm), if_pos rfl]
    · simp [hfail] at hsave
  failed := by
    intro hfail
    rcases save_cases hp fs a with ⟨-, hsave, -⟩ | ⟨-, -, hstopped⟩
    · simp [hfail] at hsave
    · rw [hstopped]
      exact ⟨fun q hq => node?_stopped_below hp hq _, load?_stopped hp fs a _⟩
  stopped := fun stop => ⟨fun q hq => node?_stopped_below hp hq stop, load?_stopped hp fs a stop⟩

/-! ## Whatever happens to the file -/

/-- What can happen to an address file. -/
inductive Act where
  /-- An address is saved, unless the environment stops it. -/
  | save (a : Address) (stop : Option Stop)
  | load
  /-- Someone makes the folders on the way. -/
  | makeFolders
  /-- Someone writes to the file. -/
  | write (bytes : List UInt8)
deriving DecidableEq, Repr

/-- The files behind an act. -/
def apply (p : Path) (fs : Files) : Act → Files
  | .save a none => (save fs p a).1
  | .save a (some stop) => stopped fs p a stop
  | .load => fs
  | .makeFolders => (fs.makeFolders p.dropLast).getD fs
  | .write bytes => (fs.write p bytes).getD fs

/-- What there is to load behind an act that gives the file a new content. -/
def puts (p : Path) (fs : Files) : Act → Option (Option Address)
  | .save a none => if (save fs p a).2 then some (some a.normal) else none
  | .write bytes => if (fs.write p bytes).isSome then some (addressOf? bytes) else none
  | .save _ (some _) | .load | .makeFolders => none

/-- An address that is saved can be one, with a 64-bit integer for its timestamp. -/
def Act.InRange (act : Act) : Prop := ∀ a stop, act = .save a stop → a.InRange

/-- Behind an act there is to load what it gave to the file or, if it gave nothing, what there was
to load before. -/
theorem load?_apply (hp : Allowed p) {act : Act} (hact : act.InRange) (fs : Files) :
    load? (apply p fs act) p = (puts p fs act).getD (load? fs p) := by
  cases act with
  | save a stop =>
    cases stop with
    | none =>
      rw [apply, load?_save hp (hact a none rfl), puts]
      cases (save fs p a).2 <;> rfl
    | some stop => exact load?_stopped hp fs a stop
  | load => rfl
  | makeFolders =>
    cases hmake : fs.makeFolders p.dropLast with
    | none => simp [apply, puts, hmake]
    | some gs =>
      have hgs : gs.node? p = fs.node? p := by
        rw [Files.node?_makeFolders hmake, if_neg hp.not_prefix_dropLast]
      simp [apply, puts, hmake, load?_congr hgs]
  | write bytes =>
    cases hwrite : fs.write p bytes with
    | none => simp [apply, puts, hwrite]
    | some gs => simp [apply, puts, hwrite, load?_eq, Files.read?_write hwrite]

/-- Whatever happens, there is to load what the file was given last. -/
theorem load?_foldl (hp : Allowed p) (fs : Files) {acts : List Act}
    (hacts : ∀ act ∈ acts, act.InRange) :
    load? (acts.foldl (apply p) fs) p =
      (gather (apply p) (puts p) fs acts).getLast?.getD (load? fs p) := by
  induction acts generalizing fs with
  | nil => rfl
  | cons act acts ih =>
    obtain ⟨hact, hacts⟩ := List.forall_mem_cons.1 hacts
    rw [List.foldl_cons, ih _ hacts, last_gather_cons, load?_apply hp hact]

/-- An address is saved as a whole or not at all, whatever was there before.  So whatever happens to
the file, there is to load what was saved or written last. -/
theorem save_atomic (hp : Allowed p) (fs : Files) :
    (∀ a : Address, a.InRange → Atomic fs p a) ∧
      ∀ acts : List Act, (∀ act ∈ acts, act.InRange) →
        load? (acts.foldl (apply p) fs) p =
          (gather (apply p) (puts p) fs acts).getLast?.getD (load? fs p) :=
  ⟨fun _ ha => atomic_save hp ha fs, fun _ hacts => load?_foldl hp fs hacts⟩

/-- Over a file that holds no text: a save that is stopped in the middle of a line, one that a
folder in the way of the file beside keeps from succeeding, and one that succeeds. -/
theorem save_atomic_over_no_text :
    let p : Path := ["data", "address"]
    let noText : Files := { nodes := [(["data"], .folder), (p, .file [0xFF])] }
    let blocked : Files := noText.put ["data", "address.tmp"] .folder
    let a : Address := { tab := .pgs, filter := some "", timestamp := some (-5) }
    let acts : List Act := [.save a none, .load, .save {} (some (.written 1))]
    Allowed p ∧ a.InRange ∧ (∀ act ∈ acts, act.InRange) ∧ load? noText p = none ∧
      Atomic noText p a ∧ Atomic blocked p a ∧
      (save noText p a).2 = true ∧ (save blocked p a).2 = false ∧
      load? (acts.foldl (apply p) noText) p = some { tab := .pgs, timestamp := some (-5) } := by
  intro p noText blocked a acts
  have hp : Allowed p := ⟨["data"], "address", rfl, by decide, by decide⟩
  have ha : a.InRange := by
    rintro t ⟨⟩
    rfl
  have hacts : ∀ act ∈ acts, act.InRange := by
    rintro act hact b stop rfl
    simp only [acts, List.mem_cons, Act.save.injEq, reduceCtorEq, List.not_mem_nil, or_false,
      false_or] at hact
    rcases hact with ⟨rfl, -⟩ | ⟨rfl, -⟩
    · exact ha
    · rintro t ⟨⟩
  refine ⟨hp, ha, hacts, by decide +kernel, (save_atomic hp noText).1 a ha,
    (save_atomic hp blocked).1 a ha, by decide +kernel, by decide +kernel, ?_⟩
  rw [(save_atomic hp noText).2 acts hacts]
  decide +kernel

end SnapshotViewer.AddressFile
