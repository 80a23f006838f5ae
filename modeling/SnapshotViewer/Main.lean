import SnapshotViewer.Program

/-!
# The executable

The thin layer around `runProgram`: it reads the arguments, the environment and the address
file, and it prints and logs what the run leaves behind.  It has neither a network nor a
terminal, so every connection counts as refused.
-/

namespace SnapshotViewer

/-- The variables of the environment that the program looks at. -/
def variableNames : List String := Flag.all.filterMap Flag.envName? ++ ["HOME", "XDG_DATA_HOME"]

/-- Reads the variables that the program looks at. -/
def readEnvironment : IO Environment := do
  let values ← variableNames.filterMapM fun name => do
    return (← IO.getEnv name).map fun v => (name, v)
  return fun name => values.lookup name

/-- Reads the file at a path, if it can be read. -/
def readFileAt (path : String) : IO Files := do
  try
    let bytes ← IO.FS.readBinFile path
    return { nodes := [(Path.ofText path, .file bytes.toList)] }
  catch _ => return {}

/-- Adds lines to the log file. -/
def appendLog (folder : String) (lines : List LogLine) : IO Unit := do
  IO.FS.createDirAll folder
  let log ← IO.FS.Handle.mk (Settings.joinPath folder logFileName) .append
  for line in lines do
    log.putStrLn line.text

end SnapshotViewer

open SnapshotViewer

/-- Runs the program. -/
def main (arguments : List String) : IO UInt32 := do
  let env ← readEnvironment
  let settings := (Settings.read arguments env).toOption
  let files ← match settings.bind fun s => s.stateFile? env with
    | some path => readFileAt path
    | none => pure {}
  let run := runProgram arguments env (fun _ => none) files
  if let some lines := run.log then
    appendLog ((settings.bind fun s => s .logDir).getD "") lines
  (← IO.getStdout).putStr run.ending.output
  unless run.ending.errorOutput.isEmpty do
    (← IO.getStderr).putStrLn run.ending.errorOutput
  return UInt32.ofNat run.ending.code
