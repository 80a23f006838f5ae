import SnapshotViewer.Address.Basic
import SnapshotViewer.Storage.Files
import SnapshotViewer.Text.Utf8

/-!
# The address file

A file that keeps an address from one run to the next: its written form on one line, so an empty
file is the default address.  A new address is written beside the file and then moved into its
place, so at no moment is the file half written.
-/

namespace SnapshotViewer.AddressFile

/-- The path that a new address is written to first. -/
def scratch (p : Path) : Path := p.withExtension "tmp"

/-- What a file that keeps an address holds. -/
def content (a : Address) : List UInt8 := Text.encode (a.encode ++ "\n")

/-- The address that a file keeps; `none` when there is no file or it holds no text. -/
def load? (fs : Files) (p : Path) : Option Address := do
  let text ← Text.decode? (← fs.read? p)
  return Address.decode (Text.trim text)

/-- Makes a file keep an address; tells whether that succeeded.  When the last move fails, the
file beside it stays behind. -/
def save (fs : Files) (p : Path) (a : Address) : Files × Bool :=
  match fs.makeFolders p.dropLast with
  | none => (fs, false)
  | some fs =>
    match fs.write (scratch p) (content a) with
    | none => (fs, false)
    | some fs =>
      match fs.move (scratch p) p with
      | none => (fs, false)
      | some fs => (fs, true)

end SnapshotViewer.AddressFile
