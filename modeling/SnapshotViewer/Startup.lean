import SnapshotViewer.Http.Exchange
import SnapshotViewer.Viewer.Opening

/-!
# Startup

The conversation with the server before anything is shown.  The server is asked what it demands
of its clients; if it does not say, it demands nothing.  Then it is asked to describe itself,
and the viewer is opened.

## Main definitions

* `StartupError`, `StartupError.message`.
* `startup` — the requests, the log, and what they lead to.
-/

namespace SnapshotViewer

/-- How the program is set up. -/
structure Config where
  url : String
  credential : Option Credential := none
  viewer : ViewerConfig := {}
deriving DecidableEq, Repr

/-- Why the program cannot start. -/
inductive StartupError where
  /-- The server demands a credential, and there is none. -/
  | reauthRequired
  /-- The server at this address does not describe itself. -/
  | noSchema (baseUrl : String) (cause : ProviderError)
  /-- There is no terminal to draw on. -/
  | noTerminal
deriving DecidableEq, Repr

namespace StartupError

/-- What is said first about an error. -/
def message : StartupError → String
  | .reauthRequired => reauthNotice
  | .noSchema baseUrl _ => "failed to fetch schema from " ++ baseUrl
  | .noTerminal => "(terminal)"

/-- The error behind an error. -/
def cause? : StartupError → Option ProviderError
  | .noSchema _ cause => some cause
  | .reauthRequired | .noTerminal => none

/-- All that is said about an error. -/
def text (e : StartupError) : String :=
  match e.cause? with
  | some cause => e.message ++ ": " ++ cause.message
  | none => e.message

end StartupError

/-- How much a line of the log matters. -/
inductive LogLevel where
  | info
  | warn
  | error
deriving DecidableEq, Repr

/-- The name of a level. -/
def LogLevel.name : LogLevel → String
  | .info => "INFO"
  | .warn => "WARN"
  | .error => "ERROR"

/-- A line of the log. -/
structure LogLine where
  level : LogLevel
  /-- The part of the program that says it. -/
  source : String
  message : String
deriving DecidableEq, Repr

/-- The text of a line of the log. -/
def LogLine.text (l : LogLine) : String := l.level.name ++ " " ++ l.source ++ ": " ++ l.message

/-- What a start has led to. -/
structure Started where
  /-- The requests that were sent, in order. -/
  requests : List Request
  log : List LogLine
  /-- The viewer and what its feed wants done. -/
  outcome : Except StartupError (Viewer × List Effect)

/-- Where the log says that startup speaks. -/
def startupSource : String := "rpglot_client::app"

/-- Starts the program. -/
def startup (config : Config) (server : Server) (files : Files) : Started :=
  let session := Session.start config.url config.credential
  let (requests, demands) :=
    exchange server [] session.authConfigRequest (readDocument AuthConfig.decoder)
  let (auth, log) : AuthConfig × List LogLine := match demands with
    | .ok auth => (auth, [])
    | .error _ =>
      ({}, [⟨.warn, startupSource, "auth config unavailable, assuming an open server"⟩])
  let session := { session with auth }
  if session.needsReauth then { requests, log, outcome := .error .reauthRequired }
  else
    let (requests, schema) :=
      exchange server requests session.schemaRequest (readDocument Catalog.decoder)
    match schema with
    | .error e => { requests, log, outcome := .error (.noSchema session.baseUrl e) }
    | .ok catalog =>
      { requests
        log := log ++ [⟨.info, startupSource, "connected"⟩]
        outcome := .ok (Viewer.opening config.viewer session catalog files) }

end SnapshotViewer
