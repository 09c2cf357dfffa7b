import BackendMonitor.Text.Terminal

/-!
# Command lines

What the program can be asked to do, the options that say how, and what can be wrong with a command
line.
-/

namespace BackendMonitor

/-- What the program is asked to do. -/
inductive Command where
  /-- Follow the realtime connection. -/
  | watch
  /-- Scan a directory of the server and follow the job to its end. -/
  | scan (path : String) (recursive : Bool) (maxFailures : Option UInt32)
  /-- Show the filters for parameters that are read line by line. -/
  | preview (effectType : String) (windowMs : Option Int)
  /-- Show whether the backend is ready. -/
  | health
deriving DecidableEq, Repr

/-- A command, and the options that stand above the settings file. -/
structure Invocation where
  /-- The path of the settings file. -/
  config : Option String := none
  apiUrl : Option String := none
  wsUrl : Option String := none
  command : Command
deriving DecidableEq, Repr

namespace CommandLine

/-- The name of the program. -/
def program : String := "stoat-monitor"

/-- The version of the program. -/
def version : String := "0.3.0"

/-- The words for the commands. -/
inductive Verb where
  | watch
  | scan
  | preview
  | health
deriving DecidableEq, Repr

/-- The word for a command. -/
def Verb.name : Verb → String
  | .watch => "watch"
  | .scan => "scan"
  | .preview => "preview"
  | .health => "health"

/-- The commands in the order in which they are shown. -/
def Verb.all : List Verb :=
  [.watch, .scan, .preview, .health]

/-- The command with a word. -/
def Verb.ofName? (s : String) : Option Verb :=
  Verb.all.find? (·.name == s)

/-- The word that asks for help like a command. -/
def helpWord : String := "help"

/-- The argument that a command needs. -/
def Verb.operand? : Verb → Option String
  | .scan => some "<PATH>"
  | .preview => some "<EFFECT_TYPE>"
  | .watch | .health => none

/-- The options. -/
inductive Switch where
  | config
  | apiUrl
  | wsUrl
  | noRecursive
  | maxFailures
  | windowMs
  | help
  | version
deriving DecidableEq, Repr

namespace Switch

/-- The long name of an option, without the hyphens. -/
def name : Switch → String
  | .config => "config"
  | .apiUrl => "api-url"
  | .wsUrl => "ws-url"
  | .noRecursive => "no-recursive"
  | .maxFailures => "max-failures"
  | .windowMs => "window-ms"
  | .help => "help"
  | .version => "version"

/-- The letter that may stand for an option. -/
def letter? : Switch → Option Char
  | .help => some 'h'
  | .version => some 'V'
  | _ => none

/-- What stands for the value of an option that takes one. -/
def placeholder? : Switch → Option String
  | .config => some "<CONFIG>"
  | .apiUrl => some "<API_URL>"
  | .wsUrl => some "<WS_URL>"
  | .maxFailures => some "<MAX_FAILURES>"
  | .windowMs => some "<WINDOW_MS>"
  | .noRecursive | .help | .version => none

/-- An option as it is shown. -/
def shown (s : Switch) : String :=
  match s.placeholder? with
  | some p => s!"--{s.name} {p}"
  | none => s!"--{s.name}"

/-- The options that are known before a command, or behind one. -/
def known : Option Verb → List Switch
  | none => [.config, .apiUrl, .wsUrl, .help, .version]
  | some .scan => [.noRecursive, .maxFailures, .config, .apiUrl, .wsUrl, .help]
  | some .preview => [.windowMs, .config, .apiUrl, .wsUrl, .help]
  | some _ => [.config, .apiUrl, .wsUrl, .help]

end Switch

/-- What can be wrong with a command line. -/
inductive Fault where
  /-- There is nothing on it. -/
  | nothingGiven
  | commandMissing
  | operandMissing (verb : Verb)
  | unknownCommand (word : String)
  | unexpectedArgument (argument : String)
  | unexpectedValue (switch : Switch) (value : String)
  | valueMissing (switch : Switch)
  | invalidValue (switch : Switch) (value reason : String)
  | repeated (switch : Switch)
deriving DecidableEq, Repr

/-- What the program is for. -/
def purpose : String := "Watch, scan and preview against a Stoat backend"

open Text.Terminal (plain) in
/-- The beginning of the message on a fault. Words of the command line are shown without sequences
that would steer the terminal. -/
def Fault.message : Fault → String
  | .nothingGiven => purpose
  | .commandMissing =>
    s!"error: '{program}' requires a subcommand but one was not provided"
  | .operandMissing _ => "error: the following required arguments were not provided:"
  | .unknownCommand word => s!"error: unrecognized subcommand '{plain word}'"
  | .unexpectedArgument argument => s!"error: unexpected argument '{plain argument}' found"
  | .unexpectedValue switch value =>
    s!"error: unexpected value '{plain value}' for '{switch.shown}' found; no more were expected"
  | .valueMissing switch =>
    s!"error: a value is required for '{switch.shown}' but none was supplied"
  | .invalidValue switch value reason =>
    s!"error: invalid value '{plain value}' for '{switch.shown}': {reason}"
  | .repeated switch =>
    s!"error: the argument '{switch.shown}' cannot be used multiple times"

/-- What a command line asks for. -/
inductive Request where
  | run (invocation : Invocation)
  /-- Show help on the program, or on one of its commands. -/
  | help (verb : Option Verb)
  | version
deriving DecidableEq, Repr

end CommandLine

end BackendMonitor
