/-!
# The name of the program

What the program calls itself, on the screen, to servers and in the places where it keeps files.
-/

namespace SnapshotViewer

/-- The name of the program. -/
def programName : String := "rpglot-client"

/-- The version of the program. -/
def programVersion : String := "0.1.0"

/-- The name and version of the program. -/
def programTitle : String := programName ++ " " ++ programVersion

end SnapshotViewer
