import SnapshotViewer.Viewer.Basic

/-!
# Opening the viewer

The first state of the program, once the server has described itself: one feed, of the kind that
the server offers, is set to work.
-/

namespace SnapshotViewer

/-- How the viewer is set up. -/
structure ViewerConfig where
  /-- The address that the user asked for. -/
  seed : Option Address := none
  /-- The path of the address file, if there is to be one. -/
  addressFile : Option Path := none
  /-- How long a jump waits, in milliseconds. -/
  debounce : Nat := 50
  /-- How long the first load waits after a failure, in milliseconds. -/
  retryDelay : Nat := 2000
deriving DecidableEq, Repr

namespace ViewerConfig

/-- The address to begin with: the one asked for, else the one that was saved, else the default
one. -/
def firstAddress (c : ViewerConfig) (files : Files) : Address :=
  (c.seed.or (c.addressFile.bind (AddressFile.load? files))).getD {}

end ViewerConfig

namespace Viewer

/-- The viewer at its beginning, with its feed set to work. -/
def opening (c : ViewerConfig) (session : Session) (catalog : Catalog) (files : Files) :
    Viewer × List Effect :=
  let nav := Navigator.start catalog (c.firstAddress files)
  let (source, effects) : Source × List Effect :=
    match catalog.mode with
    | .live => let (f, effects) := ({} : LiveFeed).start; (.live f, effects)
    | .history =>
      let feed : HistoryFeed := { debounce := c.debounce, retryDelay := c.retryDelay }
      let (f, effects) := feed.load nav.initialTimestamp
      (.history f, effects)
  (start nav source session c.addressFile, effects)

end Viewer

end SnapshotViewer
