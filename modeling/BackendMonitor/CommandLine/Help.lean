import BackendMonitor.CommandLine

/-!
# Help

The text that explains the program or one of its commands: what it is for, how it is called, its
operand, and its options in a table.
-/

namespace BackendMonitor.CommandLine

/-- What a command is for. -/
def Verb.summary : Verb → String
  | .watch => "Follow the realtime connection and log incoming events"
  | .scan => "Scan a media directory and follow the job to completion"
  | .preview =>
    "Render filter strings for parameter objects read from stdin, one JSON object per line"
  | .health => "Print backend readiness"

/-- What the operand of a command means. -/
def Verb.operandSummary : Verb → String
  | .scan => "Directory to scan, as seen by the server"
  | .preview => "Effect to preview, e.g. `text_overlay`"
  | .watch | .health => ""

/-- What an option means. -/
def Switch.summary : Switch → String
  | .config => "JSON settings file; missing fields take their defaults"
  | .apiUrl => "REST API origin (overrides the settings file)"
  | .wsUrl => "Realtime endpoint (overrides the settings file)"
  | .noRecursive => "Only scan the top level of the directory"
  | .maxFailures => "Give up after this many consecutive failed status polls"
  | .windowMs => "Quiet window before a new parameter set is previewed"
  | .help => "Print help"
  | .version => "Print version"

/-- The lines of a table with two columns, the second of them aligned. -/
def table (rows : List (String × String)) : List String :=
  let width := (rows.map (·.1.length)).foldl max 0
  rows.map fun (key, text) =>
    "  " ++ key ++ String.ofList (List.replicate (width - key.length + 2) ' ') ++ text

/-- An option in the table of options, with its letter before it. -/
def Switch.row (s : Switch) : String × String :=
  let letter := match s.letter? with
    | some c => String.ofList ['-', c, ',', ' ']
    | none => "    "
  (letter ++ s.shown, s.summary)

/-- The lines of help. -/
def helpLines : Option Verb → List String
  | none =>
    [purpose, "", s!"Usage: {program} [OPTIONS] <COMMAND>", "", "Commands:"] ++
      table ((Verb.all.map fun v => (v.name, v.summary)) ++
        [(helpWord, "Print this message or the help of the given subcommand(s)")]) ++
      ["", "Options:"] ++ table ((Switch.known none).map Switch.row)
  | some verb =>
    let operand := match verb.operand? with
      | some o => s!" {o}"
      | none => ""
    [verb.summary, "", s!"Usage: {program} {verb.name} [OPTIONS]{operand}", ""] ++
      (match verb.operand? with
      | some o => ["Arguments:"] ++ table [(o, verb.operandSummary)] ++ [""]
      | none => []) ++
      ["Options:"] ++ table ((Switch.known (some verb)).map Switch.row)

/-- The line that tells the version. -/
def versionLine : String := s!"{program} {version}"

end BackendMonitor.CommandLine
