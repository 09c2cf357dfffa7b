import BackendMonitor.CommandLine.Help
import BackendMonitor.CommandLine.Reading
import BackendMonitor.Preview
import BackendMonitor.Scan
import BackendMonitor.Settings.Document
import BackendMonitor.Text.Pieces
import BackendMonitor.Watch

/-!
# The program

From a command line to what is to be done, and from what was done to what the program leaves behind.

* `Program.prepare` reads the command line and the settings file, and gives a plan or, if there is
  nothing to be done, the outcome;
* `Program.ofHealth`, `Program.ofScan` and `Program.ofPreview` are the outcomes of plans.
-/

namespace BackendMonitor

namespace Program

/-- What the program leaves behind. -/
structure Outcome where
  /-- Zero if all went well. -/
  exitCode : Nat := 0
  stdout : String := ""
  /-- The lines that tell what went wrong. -/
  stderr : List String := []
deriving DecidableEq, Repr

/-- What is to be done. -/
inductive Plan where
  | watch (settings : Settings)
  | scan (client : Client) (poll : PollSettings) (request : ScanRequest)
  | preview (client : Client) (effectType : String) (windowMs : Int)
  | health (client : Client)
deriving DecidableEq, Repr

/-! ## What went wrong -/

/-- The outcome of a program that gives up. -/
def giveUp (message : String) (cause : Option String) : Outcome :=
  { exitCode := 1
    stderr := Text.lines s!"Error: {message}" ++
      match cause with
      | some cause => ["", "Caused by:"] ++ (Text.lines cause).map ("    " ++ ·)
      | none => [] }

/-- The outcome of something that was refused. -/
def refused (f : Failure) : Outcome :=
  giveUp f.message none

/-- The outcome of a command line that asks for nothing that can be done. An empty one gets help. -/
def misused (f : CommandLine.Fault) : Outcome :=
  { exitCode := 2
    stderr :=
      match f with
      | .nothingGiven => CommandLine.helpLines none
      | f => Text.lines f.message ++ ["", "For more information, try '--help'."] }

/-! ## Settings -/

/-- The settings in a file, given what came of reading it. -/
def settingsOfFile (path : String) (content : Except String (List UInt8)) :
    Except Outcome Settings :=
  let unread := fun reason => giveUp s!"failed to read settings file {path}" (some reason)
  match content with
  | .error reason => .error (unread reason)
  | .ok bytes =>
    match Text.Utf8.text? bytes with
    | none => .error (unread "stream did not contain valid UTF-8")
    | some text =>
      (Settings.ofText text).mapError fun f =>
        giveUp s!"invalid settings file {path}" (some f.message)

/-- Settings with the options of the command line in place of theirs. -/
def override (i : Invocation) (s : Settings) : Settings :=
  { s with apiBaseUrl := i.apiUrl.getD s.apiBaseUrl, wsUrl := i.wsUrl.getD s.wsUrl }

/-- The settings for a command line. -/
def settings (i : Invocation) (file : String → Except String (List UInt8)) :
    Except Outcome Settings := do
  let s ← match i.config with
    | some path => settingsOfFile path (file path)
    | none => .ok {}
  (override i s).validate.mapError refused

/-! ## Plans -/

/-- The greatest window, in milliseconds. -/
def maxWindow : Nat := 0x7FFFFFFFFFFFFFFF

/-- What a command is, with settings. -/
def planOf (s : Settings) (c : Client) : Command → Plan
  | .watch => .watch s
  | .scan path recursive maxFailures =>
    .scan c
      { s.poll with maxConsecutiveFailures := maxFailures.or s.poll.maxConsecutiveFailures }
      { path := path, recursive := recursive }
  | .preview effectType windowMs =>
    .preview c effectType (windowMs.getD (min s.debounce.windowMs.toNat maxWindow : Nat))
  | .health => .health c

/-- The path of the settings file that a command line names. -/
def settingsPath? (arguments : List String) : Option String :=
  match CommandLine.read arguments with
  | .ok (.run i) => i.config
  | _ => none

/-- What a command line asks to do, or the outcome if nothing is to be done. -/
def prepare (arguments : List String) (file : String → Except String (List UInt8)) :
    Except Outcome Plan :=
  match CommandLine.read arguments with
  | .error f => .error (misused f)
  | .ok .version => .error { stdout := CommandLine.versionLine ++ "\n" }
  | .ok (.help verb) =>
    .error { stdout := String.join ((CommandLine.helpLines verb).map (· ++ "\n")) }
  | .ok (.run i) => do
    let s ← settings i file
    let c ← (Client.ofSettings s).mapError refused
    return planOf s c i.command

/-! ## Outcomes -/

/-- The outcome of asking for the health of a backend. -/
def ofHealth (c : Client) (h : Health) : Outcome :=
  match h with
  | .unhealthy => giveUp s!"backend at {c.baseUrl} is unhealthy" none
  | h => { stdout := h.name ++ "\n" }

/-- The outcome of a scan. -/
def ofScan (e : Scan.Ending) : Outcome :=
  match e.failure? with
  | some reason => giveUp reason none
  | none => { stdout := e.output }

/-- The outcome of previews. -/
def ofPreview (p : Preview) : Outcome :=
  match p.stage with
  | .failed reason => { giveUp reason none with stdout := p.output }
  | _ => { stdout := p.output }

end Program

end BackendMonitor
