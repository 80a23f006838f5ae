import SnapshotViewer.CommandLine.Help
import SnapshotViewer.CommandLine.Read

/-!
# The program

A whole run without a terminal: what it prints, what it logs, and how it ends.
-/

namespace SnapshotViewer

/-- What becomes of a run. -/
inductive Ending where
  /-- Something was asked for and is printed. -/
  | printed (text : String)
  /-- The command line makes no sense. -/
  | misused (e : UsageError)
  /-- The program could not start. -/
  | failed (e : StartupError)
deriving DecidableEq, Repr

namespace Ending

/-- The exit code. -/
def code : Ending → Nat
  | .printed _ => 0
  | .misused _ => 2
  | .failed _ => 1

/-- What goes to the standard output. -/
def output : Ending → String
  | .printed s => s
  | .misused _ | .failed _ => ""

/-- What goes to the standard error output, as far as it says what is wrong. -/
def errorOutput : Ending → String
  | .printed _ => ""
  | .misused e => "error: " ++ e.message
  | .failed e => "Error: " ++ e.text

end Ending

/-- The name of the log file. -/
def logFileName : String := programName ++ ".log"

/-- A run of the program. -/
structure ProgramRun where
  ending : Ending
  requests : List Request := []
  /-- The log; a run that does not get past the command line has none. -/
  log : Option (List LogLine) := none

/-- Where the log says that the program itself speaks. -/
def programSource : String := "rpglot_client"

/-- A start with some settings.  There is no terminal, so the program cannot stay. -/
def startupError (config : Config) (server : Server) (files : Files) : Started × StartupError :=
  let started := startup config server files
  match started.outcome with
  | .ok _ => (started, .noTerminal)
  | .error e => (started, e)

/-- Runs the program without a terminal. -/
def runProgram (arguments : List String) (env : Environment) (server : Server) (files : Files) :
    ProgramRun :=
  match Settings.read arguments env with
  | .error .help => { ending := .printed (helpText env) }
  | .error .version => { ending := .printed versionText }
  | .error e => { ending := .misused e }
  | .ok settings =>
    let (started, e) := startupError (settings.config env) server files
    { ending := .failed e
      requests := started.requests
      log := some <| LogLine.mk .info programSource "starting" ::
        started.log ++ [LogLine.mk .error programSource "client failed"] }

end SnapshotViewer
