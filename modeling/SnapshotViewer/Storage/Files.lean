/-!
# Files and folders

A tree of files and folders, held flat: what is found at a path depends on the entry under that
very path.  The root is a folder that is always there.

## Main definitions

* `Path`, `Node`, `Files`, `Files.node?`.
* `Files.makeFolders`, `Files.write`, `Files.move` — operations that can fail.
* `Path.withExtension` — a path beside another one.
-/

namespace SnapshotViewer

/-- The names on the way from the root to an entry. -/
abbrev Path := List String

namespace Path

/-- The path that a text writes with slashes between the names. -/
def ofText (s : String) : Path :=
  (s.splitOn "/").filter fun name => name ≠ "" ∧ name ≠ "."

/-- A name without its extension, the part from the last dot on.  A dot in front is no start of
an extension. -/
def stem (name : String) : String :=
  match name.toList.reverse.dropWhile (· != '.') with
  | [] | [_] => name
  | _ :: before => String.ofList before.reverse

/-- The path with the extension of its last name replaced or, if it has none, added. -/
def withExtension (p : Path) (extension : String) : Path :=
  match p.getLast? with
  | none | some ".." => p
  | some name => p.dropLast ++ [stem name ++ "." ++ extension]

/-- The folders on the way to an entry and the entry itself, the outermost first. -/
def ancestors (p : Path) : List Path := (List.range p.length).map fun i => p.take (i + 1)

end Path

/-- What is found at a path. -/
inductive Node where
  | file (content : List UInt8)
  | folder
deriving DecidableEq, Repr

/-- Files and folders. -/
structure Files where
  nodes : List (Path × Node) := []
deriving DecidableEq, Repr, Inhabited

namespace Files

/-- What is found at a path. -/
def node? (fs : Files) (p : Path) : Option Node :=
  if p = [] then some .folder else fs.nodes.lookup p

/-- Puts an entry at a path in place of what was there. -/
def put (fs : Files) (p : Path) (n : Node) : Files := { nodes := (p, n) :: fs.nodes }

/-- Takes the entry at a path away. -/
def remove (fs : Files) (p : Path) : Files := { nodes := fs.nodes.filter (·.1 ≠ p) }

@[simp] theorem node?_put (fs : Files) (p q : Path) (n : Node) (h : q ≠ []) :
    (fs.put p n).node? q = if q = p then some n else fs.node? q := by
  simp only [node?, put, h, if_false, List.lookup_cons]
  by_cases e : q = p
  · simp [e]
  · simp [beq_false_of_ne e, e]

@[simp] theorem node?_remove (fs : Files) (p q : Path) (h : q ≠ []) :
    (fs.remove p).node? q = if q = p then none else fs.node? q := by
  simp only [node?, remove, h, if_false]
  induction fs.nodes with
  | nil => simp
  | cons e rest ih => grind

/-- The content of the file at a path. -/
def read? (fs : Files) (p : Path) : Option (List UInt8) :=
  match fs.node? p with
  | some (.file content) => some content
  | _ => none

/-- Makes a folder unless there is one; fails when a file is in its place. -/
def makeFolder (fs : Files) (p : Path) : Option Files :=
  match fs.node? p with
  | none => some (fs.put p .folder)
  | some .folder => some fs
  | some (.file _) => none

/-- Makes a folder and the folders on the way to it, as far as they are missing. -/
def makeFolders (fs : Files) (p : Path) : Option Files := p.ancestors.foldlM makeFolder fs

/-- Whether a file can be put at a path: its folder is there and no folder is in its place. -/
def accepts (fs : Files) (p : Path) : Bool :=
  fs.node? p ≠ some .folder && fs.node? p.dropLast == some .folder

/-- Writes a file in place of the one that was there. -/
def write (fs : Files) (p : Path) (content : List UInt8) : Option Files :=
  if fs.accepts p then some (fs.put p (.file content)) else none

/-- Moves a file in place of the one that was at its new path. -/
def move (fs : Files) (source target : Path) : Option Files :=
  match fs.node? source with
  | some (.file content) =>
    if source = target then some fs
    else if fs.accepts target then some ((fs.remove source).put target (.file content))
    else none
  | _ => none

/-- Puts an entry at a path in place of all that was there and below. -/
def replaceTree (fs : Files) (p : Path) (n : Node) : Files :=
  { nodes := (p, n) :: fs.nodes.filter fun e => !p.isPrefixOf e.1 }

end Files

end SnapshotViewer
