import SnapshotViewer.Number.Int64
import SnapshotViewer.Startup

/-!
# Options of the command line

The options that the program understands, and the settings that they make up.  Every option
takes a value; some can be given by a variable of the environment as well, and some have a
default.

## Main definitions

* `Flag` — an option, with its name, its variable and its default.
* `Settings`, `Settings.credential`, `Settings.config`.
-/

namespace SnapshotViewer

/-- An option of the command line. -/
inductive Flag where
  | url
  | token
  | user
  | password
  | address
  | stateFile
  | logDir
  | debounce
  | retryDelay
  | tick
deriving DecidableEq, Repr

/-- What the value of an option has to be. -/
inductive ValueKind where
  /-- Any text. -/
  | text
  /-- A path: any text but the empty one. -/
  | path
  /-- A number that 64 bits hold. -/
  | number
deriving DecidableEq, Repr

namespace Flag

/-- All options in the order of the help. -/
def all : List Flag :=
  [url, token, user, password, address, stateFile, logDir, debounce, retryDelay, tick]

/-- The name of an option. -/
def name : Flag → String
  | url => "url"
  | token => "token"
  | user => "user"
  | password => "password"
  | address => "at"
  | stateFile => "state-file"
  | logDir => "log-dir"
  | debounce => "debounce-ms"
  | retryDelay => "retry-delay-ms"
  | tick => "tick-ms"

/-- What stands for the value of an option in texts. -/
def placeholder : Flag → String
  | url => "URL"
  | token => "TOKEN"
  | user => "USER"
  | password => "PASSWORD"
  | address => "ADDRESS"
  | stateFile => "PATH"
  | logDir => "LOG_DIR"
  | debounce => "DEBOUNCE_MS"
  | retryDelay => "RETRY_DELAY_MS"
  | tick => "TICK_MS"

/-- What the help says about an option. -/
def help : Flag → String
  | url => "Server base URL"
  | token => "Bearer token (SSO proxy JWT)"
  | user => "Basic auth user"
  | password => "Basic auth password"
  | address =>
    "Initial navigation address, e.g. `tab=pga&filter=idle`. Overrides the persisted one"
  | stateFile => "File holding the navigation address between runs"
  | logDir => "Directory for the log file"
  | debounce => "History navigation debounce (milliseconds)"
  | retryDelay => "Delay before retrying a failed initial history load (milliseconds)"
  | tick => "Screen refresh interval without input (milliseconds)"

/-- The variable of the environment that an option can be given by. -/
def envName? : Flag → Option String
  | url => some "RPGLOT_URL"
  | token => some "RPGLOT_TOKEN"
  | user => some "RPGLOT_AUTH_USER"
  | password => some "RPGLOT_AUTH_PASSWORD"
  | logDir => some "RPGLOT_CLIENT_LOG_DIR"
  | address | stateFile | debounce | retryDelay | tick => none

/-- The value of an option that is not given. -/
def default? : Flag → Option String
  | url => some "http://127.0.0.1:8080"
  | logDir => some "/tmp"
  | debounce => some "50"
  | retryDelay => some "2000"
  | tick => some "250"
  | token | user | password | address | stateFile => none

/-- What the value of an option has to be. -/
def kind : Flag → ValueKind
  | url | token | user | password | address => .text
  | stateFile | logDir => .path
  | debounce | retryDelay | tick => .number

/-- An option as texts show it. -/
def text (f : Flag) : String := "--" ++ f.name ++ " <" ++ f.placeholder ++ ">"

end Flag

/-- The number of 64 bits without a sign that a text writes: a plus sign may stand in front. -/
def readNatural (cs : List Char) : Except IntegerFault Nat :=
  let digits := match cs with
    | '+' :: rest => rest
    | cs => cs
  if digits.isEmpty then .error (if cs.isEmpty then .empty else .invalidDigit)
  else
    match readDigits? digits with
    | none => .error .invalidDigit
    | some n => if n < 0x10000000000000000 then .ok n else .error .tooLarge

/-- The environment: the values of variables. -/
abbrev Environment := String → Option String

/-- The settings that options make up: the value of each, if there is one. -/
abbrev Settings := Flag → Option String

namespace Settings

/-- The number that an option is set to. -/
def number (s : Settings) (f : Flag) : Nat :=
  match (s f).map fun v => readNatural v.toList with
  | some (.ok n) => n
  | _ => 0

/-- The credential that was given; a token wins. -/
def credential (s : Settings) : Option Credential :=
  match s .token, s .user, s .password with
  | some token, _, _ => some (.bearer token)
  | none, some user, some password => some (.basic user password)
  | none, _, _ => none

/-- The address to begin with, if one was given. -/
def seed (s : Settings) : Option Address := (s .address).map Address.decode

/-- A path and a further name. -/
def joinPath (folder name : String) : String :=
  if folder.toList.getLast? = some '/' then folder ++ name else folder ++ "/" ++ name

/-- The usual path of the address file: in the data folder of the user, whose place the
environment says. -/
def usualStateFile? (env : Environment) : Option String :=
  let data? := match env "XDG_DATA_HOME" with
    | some d => if d.toList.head? = some '/' then some d else none
    | none => none
  let home? := ((env "HOME").bind nonEmpty).map fun h => joinPath h ".local/share"
  (data?.or home?).map fun d => joinPath (joinPath d programName) "address"

/-- The path of the address file. -/
def stateFile? (s : Settings) (env : Environment) : Option String :=
  (s .stateFile).or (usualStateFile? env)

/-- How the program is set up. -/
def config (s : Settings) (env : Environment) : Config where
  url := (s .url).getD ""
  credential := s.credential
  viewer :=
    { seed := s.seed
      addressFile := (s.stateFile? env).map Path.ofText
      debounce := s.number .debounce
      retryDelay := s.number .retryDelay }

end Settings

end SnapshotViewer
