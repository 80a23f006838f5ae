import SnapshotViewer.CommandLine.Options

/-!
# Reading the command line

Options are written `--name value` or `--name=value`.  The value is looked at when the next
option begins or the command line ends, so of two mistakes the one that is noticed first counts.
A value behind a blank cannot start with a hyphen, unless it is a single one.  There are no
other arguments.

What is not given is taken from the environment, then from the defaults.  A token excludes a
user, and a user and a password need each other.

## Main definitions

* `UsageError`, `UsageError.message`.
* `Settings.read` — the settings that a command line and an environment make up.
-/

namespace SnapshotViewer

/-- Why a command line does not make up settings. -/
inductive UsageError where
  /-- The help is asked for. -/
  | help
  /-- The version is asked for. -/
  | version
  | unknown (argument : String)
  | missingValue (f : Flag)
  /-- The value is no number. -/
  | badNumber (f : Flag) (value : String) (fault : IntegerFault)
  | conflict (f g : Flag)
  | repeated (f : Flag)
  | missing (f : Flag)
  /-- A value for an option that takes none. -/
  | surplusValue (option value : String)
deriving DecidableEq, Repr

/-- What is wrong with a number. -/
def IntegerFault.message : IntegerFault → String
  | .empty => "cannot parse integer from empty string"
  | .invalidDigit => "invalid digit found in string"
  | .tooLarge => "number too large to fit in target type"
  | .tooSmall => "number too small to fit in target type"

/-- What is said about a mistake, in one line. -/
def UsageError.message : UsageError → String
  | .help | .version => ""
  | .unknown a => "unexpected argument '" ++ a ++ "' found"
  | .missingValue f => "a value is required for '" ++ f.text ++ "' but none was supplied"
  | .badNumber f v fault => "invalid value '" ++ v ++ "' for '" ++ f.text ++ "': " ++ fault.message
  | .conflict f g => "the argument '" ++ f.text ++ "' cannot be used with '" ++ g.text ++ "'"
  | .repeated f => "the argument '" ++ f.text ++ "' cannot be used multiple times"
  | .missing _ => "the following required arguments were not provided:"
  | .surplusValue o v =>
    "unexpected value '" ++ v ++ "' for '" ++ o ++ "' found; no more were expected"

/-- An argument, by what it looks like. -/
inductive Argument where
  /-- The end of the options. -/
  | separator
  | long (name : String) (value : Option String)
  /-- The first letter behind a single hyphen. -/
  | short (letter : Char)
  | plain (text : String)
deriving DecidableEq, Repr

/-- What an argument looks like. -/
def Argument.ofText (s : String) : Argument :=
  match s.toList with
  | ['-', '-'] => .separator
  | '-' :: '-' :: rest =>
    let name := rest.takeWhile (· != '=')
    .long (String.ofList name) <|
      if name.length < rest.length then some (String.ofList (rest.drop (name.length + 1))) else none
  | '-' :: c :: _ => .short c
  | _ => .plain s

/-- What is known after some arguments. -/
structure CommandLine where
  /-- The options and their values so far. -/
  given : List (Flag × String) := []
  /-- The option that was begun last, and its value as far as it is known. -/
  pending : Option (Flag × Option String) := none
  /-- The options have ended. -/
  ended : Bool := false

namespace CommandLine

/-- Looks at the value of an option. -/
def checkValue (f : Flag) (value : String) : Except UsageError Unit :=
  match f.kind with
  | .text => .ok ()
  | .path => if value.isEmpty then .error (.missingValue f) else .ok ()
  | .number =>
    match readNatural value.toList with
    | .ok _ => .ok ()
    | .error fault => .error (.badNumber f value fault)

/-- Notes an option and its value. -/
def note (r : CommandLine) (f : Flag) (value : String) : Except UsageError CommandLine := do
  if (r.given.lookup f).isSome then .error (.repeated f)
  else
    checkValue f value
    return { r with given := r.given ++ [(f, value)] }

/-- Ends the option that was begun last. -/
def settle (r : CommandLine) : Except UsageError CommandLine :=
  match r.pending with
  | none => .ok r
  | some (f, none) => .error (.missingValue f)
  | some (f, some v) => { r with pending := none }.note f v

/-- Takes an option with a name. -/
def takeLong (r : CommandLine) (name : String) (value : Option String) :
    Except UsageError CommandLine := do
  match Flag.all.find? (·.name = name), value with
  | some f, some v => (← r.settle).note f v
  | some f, none => return { ← r.settle with pending := some (f, none) }
  | none, _ =>
    let asked? : Option UsageError :=
      if name = "help" then some .help else if name = "version" then some .version else none
    match asked?, value with
    | some _, some v => .error (.surplusValue ("--" ++ name) v)
    | some e, none => let _ ← r.settle; .error e
    | none, _ => .error (.unknown ("--" ++ name))

/-- Takes an argument. -/
def take (r : CommandLine) (s : String) : Except UsageError CommandLine :=
  if r.ended then .error (.unknown s)
  else
    match Argument.ofText s with
    | .separator => .ok { r with ended := true }
    | .long name value => r.takeLong name value
    | .short 'h' => do let _ ← r.settle; .error .help
    | .short 'V' => do let _ ← r.settle; .error .version
    | .short c => .error (.unknown (String.ofList ['-', c]))
    | .plain s =>
      match r.pending with
      | some (f, none) => .ok { r with pending := some (f, some s) }
      | _ => .error (.unknown s)

/-- Adds what the environment gives. -/
def addEnvironment (r : CommandLine) (env : Environment) : Except UsageError CommandLine :=
  Flag.all.foldlM (fun r f =>
    match f.envName?.bind env with
    | some v => if (r.given.lookup f).isSome then .ok r else r.note f v
    | none => .ok r) r

/-- Refuses options that do not go together. -/
def check (r : CommandLine) : Except UsageError Unit :=
  let isGiven (f : Flag) : Bool := (r.given.lookup f).isSome
  let first? : Option Flag := (r.given.map (·.1)).find? fun f => f = .token ∨ f = .user
  if isGiven .token && isGiven .user then
    .error (if first? = some .user then .conflict .user .token else .conflict .token .user)
  else if isGiven .user && !isGiven .password then .error (.missing .password)
  else if isGiven .password && !isGiven .user && !isGiven .token then .error (.missing .user)
  else .ok ()

end CommandLine

/-- The settings that a command line and an environment make up. -/
def Settings.read (arguments : List String) (env : Environment) : Except UsageError Settings := do
  let r ← arguments.foldlM CommandLine.take {}
  let r ← (← r.settle).addEnvironment env
  r.check
  return fun f => (r.given.lookup f).or f.default?

end SnapshotViewer
