import SnapshotViewer.CommandLine.Options

/-!
# The help of the command line

The text that explains the options, with what the environment gives at the moment.
-/

namespace SnapshotViewer

/-- What is printed when the version is asked for. -/
def versionText : String := programTitle ++ "\n"

/-- How the program is called. -/
def usageText : String := "Usage: " ++ programName ++ " [OPTIONS]"

/-- What the help says about an option and its value. -/
def Flag.helpLine (env : Environment) (f : Flag) : String :=
  let given := match f.envName? with
    | some v => " [env: " ++ v ++ "=" ++ (env v).getD "" ++ "]"
    | none => ""
  let usual := match f.default? with
    | some d => " [default: " ++ d ++ "]"
    | none => ""
  f.help ++ given ++ usual

/-- An entry of the help. -/
def helpEntry (option explanation : String) : String :=
  option ++ "\n          " ++ explanation ++ "\n"

/-- The help. -/
def helpText (env : Environment) : String :=
  let flags := Flag.all.map fun f => helpEntry ("      " ++ f.text) (f.helpLine env)
  "Remote rpglot viewer\n\n" ++ usageText ++ "\n\nOptions:\n" ++ String.join flags
    ++ helpEntry "  -h, --help" "Print help" ++ helpEntry "  -V, --version" "Print version"

end SnapshotViewer
