import SnapshotViewer.Storage.Files

/-!
# Folders on the way, and names beside a file

Making the folders on the way to an entry touches these folders only, and it fails only if a file
is in the place of one of them.  A file is put into a folder that is there unless there is a folder
in its place.

A name with another extension is another name, so what is written beside a file under such a name
is not written to the file.

## Main definitions

* `Path.extension?` — the extension of a name.

## Main statements

* `Path.withExtension_ne` — a path with an extension that it does not have is another path.
* `Files.node?_makeFolders` — what is found behind the making of folders.
* `Files.isSome_makeFolders_iff` — when they can be made.
* `Files.write_move_cases` — writing a file and moving it to another name in its folder.
-/

namespace SnapshotViewer

namespace Path

variable {p q folder : Path} {name extension : String}

/-- The folders on the way to an entry and the entry itself are its prefixes. -/
theorem mem_ancestors : q ∈ p.ancestors ↔ q ≠ [] ∧ q <+: p := by
  simp only [ancestors, List.mem_map, List.mem_range]
  constructor
  · rintro ⟨i, hi, rfl⟩
    exact ⟨List.ne_nil_of_length_pos (by rw [List.length_take]; omega), List.take_prefix _ _⟩
  · rintro ⟨hne, hprefix⟩
    have hpos := List.length_pos_iff.2 hne
    have hle := hprefix.length_le
    refine ⟨q.length - 1, by omega, ?_⟩
    rw [Nat.sub_add_cancel hpos]
    exact (List.prefix_iff_eq_take.1 hprefix).symm

/-- The extension of a name, the part behind its last dot.  A dot in front is no start of an
extension. -/
def extension? (name : String) : Option String :=
  match name.toList.reverse.dropWhile (· != '.') with
  | [] | [_] => none
  | _ => some (String.ofList (name.toList.reverse.takeWhile (· != '.')).reverse)

theorem stem_ne_empty (h : name ≠ "") : stem name ≠ "" := by
  unfold stem
  split
  · exact h
  · exact h
  · next before hne _ =>
    have hbefore : before ≠ [] := hne
    simpa using hbefore

/-- A name that ends in a dot and an extension has that extension. -/
theorem extension?_eq_some {front : String} (hfront : front ≠ "") (hdot : '.' ∉ extension.toList) :
    extension? (front ++ "." ++ extension) = some extension := by
  have hreverse : (front ++ "." ++ extension).toList.reverse =
      extension.toList.reverse ++ '.' :: front.toList.reverse := by simp
  have hall : ∀ c ∈ extension.toList.reverse, (c != '.') = true := by
    intro c hc
    rw [bne_iff_ne]
    rintro rfl
    exact hdot (List.mem_reverse.1 hc)
  have hdrop : (front ++ "." ++ extension).toList.reverse.dropWhile (· != '.') =
      '.' :: front.toList.reverse := by
    rw [hreverse, List.dropWhile_append_of_pos hall]
    rfl
  have htake : (front ++ "." ++ extension).toList.reverse.takeWhile (· != '.') =
      extension.toList.reverse := by
    rw [hreverse, List.takeWhile_append_of_pos hall]
    simp
  obtain ⟨c, cs, hcs⟩ := List.exists_cons_of_ne_nil
    (show front.toList.reverse ≠ [] by simpa using hfront)
  unfold extension?
  rw [hdrop, htake, hcs, List.reverse_reverse, String.ofList_toList]

theorem withExtension_concat (h : name ≠ "..") :
    withExtension (folder ++ [name]) extension = folder ++ [stem name ++ "." ++ extension] := by
  unfold withExtension
  rw [List.getLast?_concat]
  split
  · next heq => cases heq
  · next heq => exact absurd (Option.some.inj heq) h
  · next heq =>
    cases heq
    rw [List.dropLast_concat]

/-- A path with an extension that it does not have is another path. -/
theorem withExtension_ne (hname : name ≠ "..") (hdot : '.' ∉ extension.toList)
    (h : extension? name ≠ some extension) :
    withExtension (folder ++ [name]) extension ≠ folder ++ [name] := by
  rw [withExtension_concat hname]
  intro heq
  obtain ⟨-, hsame⟩ := List.append_inj heq rfl
  have hname' : stem name ++ "." ++ extension = name := by simpa using hsame
  have hne : name ≠ "" := by
    rintro rfl
    simp at hname'
  refine h ?_
  rw [← hname']
  exact extension?_eq_some (stem_ne_empty hne) hdot

end Path

namespace Files

variable {fs gs : Files} {p q : Path} {n : Node}

@[simp] theorem node?_nil (fs : Files) : fs.node? [] = some .folder := rfl

/-- The root does not move, so what is put elsewhere is found there and nowhere else. -/
theorem node?_put_of_ne_nil (hp : p ≠ []) :
    (fs.put p n).node? q = if q = p then some n else fs.node? q := by
  by_cases hq : q = []
  · subst hq
    simp [hp.symm]
  · exact node?_put fs p q n hq

theorem node?_remove_of_ne_nil (hp : p ≠ []) :
    (fs.remove p).node? q = if q = p then none else fs.node? q := by
  by_cases hq : q = []
  · subst hq
    simp [hp.symm]
  · exact node?_remove fs p q hq

/-- A folder is made unless a file is in its place, and nothing else is touched. -/
theorem makeFolder_cases (fs : Files) (p : Path) :
    (fs.read? p = none ∧ ∃ gs, fs.makeFolder p = some gs ∧
      ∀ q, gs.node? q = if q = p then some .folder else fs.node? q) ∨
    (fs.read? p ≠ none ∧ fs.makeFolder p = none) := by
  unfold makeFolder read?
  cases hnode : fs.node? p with
  | none =>
    have hp : p ≠ [] := by
      rintro rfl
      cases hnode
    exact .inl ⟨rfl, _, rfl, fun q => node?_put_of_ne_nil hp⟩
  | some node =>
    cases node with
    | file content => exact .inr ⟨by simp, rfl⟩
    | folder =>
      refine .inl ⟨rfl, _, rfl, fun q => ?_⟩
      split
      · next h => rw [h, hnode]
      · rfl

/-- Folders are made unless a file is in the place of one, and nothing else is touched. -/
theorem foldlM_makeFolder_cases (fs : Files) (ps : List Path) :
    ((∀ q ∈ ps, fs.read? q = none) ∧ ∃ gs, ps.foldlM makeFolder fs = some gs ∧
      ∀ q, gs.node? q = if q ∈ ps then some .folder else fs.node? q) ∨
    (¬ (∀ q ∈ ps, fs.read? q = none) ∧ ps.foldlM makeFolder fs = none) := by
  induction ps generalizing fs with
  | nil => exact .inl ⟨by simp, fs, rfl, by simp⟩
  | cons p ps ih =>
    rcases fs.makeFolder_cases p with ⟨hp, gs, hmake, hnode⟩ | ⟨hp, hmake⟩
    · -- a folder that is made is no file, and it leaves the files where they are
      have hread : ∀ q, gs.read? q = none ↔ fs.read? q = none := by
        intro q
        by_cases hq : q = p
        · subst hq
          rw [iff_true_right hp]
          simp [read?, hnode]
        · simp [read?, hnode, hq]
      rcases ih gs with ⟨hps, hs, hfold, hnode'⟩ | ⟨hps, hfold⟩
      · refine .inl ⟨?_, hs, by rw [List.foldlM_cons, hmake]; exact hfold, fun q => ?_⟩
        · exact List.forall_mem_cons.2 ⟨hp, fun q hq => (hread q).1 (hps q hq)⟩
        · rw [hnode', hnode]
          grind
      · refine .inr ⟨fun h => hps fun q hq => (hread q).2 (h q (List.mem_cons_of_mem p hq)), ?_⟩
        rw [List.foldlM_cons, hmake]
        exact hfold
    · refine .inr ⟨fun h => hp (h p List.mem_cons_self), ?_⟩
      rw [List.foldlM_cons, hmake]
      rfl

/-- What is found behind the making of folders: these, and all else as before. -/
theorem node?_makeFolders (h : fs.makeFolders p = some gs) (q : Path) :
    gs.node? q = if q <+: p then some .folder else fs.node? q := by
  rcases fs.foldlM_makeFolder_cases p.ancestors with ⟨-, hs, hmake, hnode⟩ | ⟨-, hmake⟩
  · obtain rfl : hs = gs := Option.some.inj (hmake.symm.trans h)
    rw [hnode]
    simp only [Path.mem_ancestors]
    by_cases hq : q = []
    · subst hq
      simp
    · simp [hq]
  · cases hmake.symm.trans h

/-- The folders on the way can be made unless a file is in the place of one of them. -/
theorem isSome_makeFolders_iff :
    (fs.makeFolders p).isSome = true ↔ ∀ q, q <+: p → fs.read? q = none := by
  have hancestors : (∀ q ∈ p.ancestors, fs.read? q = none) ↔ ∀ q, q <+: p → fs.read? q = none := by
    simp only [Path.mem_ancestors]
    refine ⟨fun h q hq => ?_, fun h q hq => h q hq.2⟩
    by_cases hnil : q = []
    · subst hnil
      rfl
    · exact h q ⟨hnil, hq⟩
  rw [← hancestors]
  rcases fs.foldlM_makeFolder_cases p.ancestors with ⟨hps, hs, hmake, -⟩ | ⟨hps, hmake⟩
  · simpa [makeFolders, hmake] using hps
  · simp only [makeFolders, hmake, Option.isSome_none, Bool.false_eq_true, false_iff]
    exact hps

/-! ## Files in a folder that is there -/

variable {source target : Path} {content : List UInt8}

theorem accepts_iff (h : fs.node? p.dropLast = some .folder) :
    fs.accepts p = true ↔ fs.node? p ≠ some .folder := by
  simp [accepts, h]

/-- A file is written unless a folder is in its place. -/
theorem write_cases (h : fs.node? p.dropLast = some .folder) (content : List UInt8) :
    (fs.node? p ≠ some .folder ∧ fs.write p content = some (fs.put p (.file content))) ∨
    (fs.node? p = some .folder ∧ fs.write p content = none) := by
  by_cases hnode : fs.node? p = some .folder
  · exact .inr ⟨hnode, if_neg fun haccepts => (accepts_iff h).1 haccepts hnode⟩
  · exact .inl ⟨hnode, if_pos ((accepts_iff h).2 hnode)⟩

/-- A file is moved unless a folder is in its new place. -/
theorem move_cases (hsource : fs.node? source = some (.file content)) (hne : source ≠ target)
    (h : fs.node? target.dropLast = some .folder) :
    (fs.node? target ≠ some .folder ∧
      fs.move source target = some ((fs.remove source).put target (.file content))) ∨
    (fs.node? target = some .folder ∧ fs.move source target = none) := by
  have hmove : fs.move source target = if fs.accepts target = true
      then some ((fs.remove source).put target (.file content)) else none := by
    simp [move, hsource, hne]
  rw [hmove]
  by_cases hnode : fs.node? target = some .folder
  · exact .inr ⟨hnode, if_neg fun haccepts => (accepts_iff h).1 haccepts hnode⟩
  · exact .inl ⟨hnode, if_pos ((accepts_iff h).2 hnode)⟩

/-- Writing a file and moving it to another name in its folder: a folder is in the place of the
first name or of the other one, or there is the file under the other name and nothing under the
first. -/
theorem write_move_cases {folder : Path} {name beside : String} (hne : beside ≠ name)
    (h : fs.node? folder = some .folder) (content : List UInt8) :
    (fs.node? (folder ++ [beside]) = some .folder ∧
      fs.write (folder ++ [beside]) content = none) ∨
    ∃ gs, fs.node? (folder ++ [beside]) ≠ some .folder ∧
      fs.write (folder ++ [beside]) content = some gs ∧
      ((fs.node? (folder ++ [name]) = some .folder ∧
        gs.move (folder ++ [beside]) (folder ++ [name]) = none) ∨
      ∃ hs, fs.node? (folder ++ [name]) ≠ some .folder ∧
        gs.move (folder ++ [beside]) (folder ++ [name]) = some hs ∧
        ∀ q, hs.node? q = if q = folder ++ [name] then some (.file content)
          else if q = folder ++ [beside] then none else fs.node? q) := by
  have hapart : folder ++ [beside] ≠ folder ++ [name] := by simpa using hne
  rcases write_cases (p := folder ++ [beside]) (by rwa [List.dropLast_concat]) content
    with ⟨hbeside, hwrite⟩ | ⟨hbeside, hwrite⟩
  · refine .inr ⟨_, hbeside, hwrite, ?_⟩
    generalize hgs : fs.put (folder ++ [beside]) (.file content) = gs
    have hnode : ∀ q, gs.node? q =
        if q = folder ++ [beside] then some (.file content) else fs.node? q := by
      intro q
      rw [← hgs, node?_put_of_ne_nil (by simp)]
    have hfolder : gs.node? (folder ++ [name]).dropLast = some .folder := by
      rw [List.dropLast_concat, hnode, if_neg (by simp), h]
    have htarget : gs.node? (folder ++ [name]) = fs.node? (folder ++ [name]) := by
      rw [hnode, if_neg hapart.symm]
    rw [← htarget]
    rcases move_cases ((hnode _).trans (if_pos rfl)) hapart hfolder with ⟨hname, hmove⟩ | hname
    · refine .inr ⟨_, hname, hmove, fun q => ?_⟩
      rw [node?_put_of_ne_nil (by simp), node?_remove_of_ne_nil (by simp), hnode]
      grind
    · exact .inl hname
  · exact .inl ⟨hbeside, hwrite⟩

end Files

end SnapshotViewer
