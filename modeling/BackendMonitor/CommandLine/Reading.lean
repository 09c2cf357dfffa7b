import BackendMonitor.CommandLine
import BackendMonitor.CommandLine.Whole

/-!
# Reading command lines

The arguments are taken from left to right. Options may stand before and behind the command, those
behind it win. The value of an option is accepted when the next option or operand comes, or at the
end; so what is wrong with it may be told late.

* `CommandLine.read` gives what a command line asks for, or what is wrong with it.
-/

namespace BackendMonitor.CommandLine

/-- What has been accepted before the command, or behind it. -/
structure Draft where
  config : Option String := none
  apiUrl : Option String := none
  wsUrl : Option String := none
  noRecursive : Bool := false
  maxFailures : Option UInt32 := none
  windowMs : Option Int := none
  operand : Option String := none
  /-- The options that were given. -/
  given : List Switch := []
deriving Repr

/-- Why reading stops before the end of the line. -/
inductive Stop where
  | fault (f : Fault)
  | answer (r : Request)

/-- How far the line has been read. -/
structure Reader where
  verb : Option Verb := none
  draft : Draft := {}
  /-- An option that takes a value, and the value if it has come. -/
  pending : Option (Switch × Option String) := none
  /-- Whether all that follows are operands. -/
  literal : Bool := false
  /-- What was accepted before the command, and the option there that is still pending. -/
  outer : Draft × Option (Switch × Option String) := ({}, none)

/-! ## Values -/

/-- A number of 32 bits for an option. -/
def word32 (s : Switch) (value : String) : Except Fault UInt32 :=
  match whole value with
  | .error f => .error (.invalidValue s value f.message)
  | .ok n =>
    if 0 ≤ n && n ≤ 0xFFFFFFFF then .ok n.toNat.toUInt32
    else .error (.invalidValue s value s!"{n} is not in 0..=4294967295")

/-- A number of 64 bits for an option. -/
def number (s : Switch) (value : String) : Except Fault Int :=
  (whole value).mapError fun f => .invalidValue s value f.message

/-- Takes the value of an option. -/
def assign (s : Switch) (value : String) (d : Draft) : Except Fault Draft :=
  match s with
  | .config => if value.isEmpty then .error (.valueMissing s) else .ok { d with config := value }
  | .apiUrl => .ok { d with apiUrl := value }
  | .wsUrl => .ok { d with wsUrl := value }
  | .maxFailures => (word32 s value).map fun n => { d with maxFailures := some n }
  | .windowMs => (number s value).map fun n => { d with windowMs := some n }
  | .noRecursive => .ok { d with noRecursive := true }
  | .help | .version => .ok d

/-- Accepts an option with its value. An option that takes none has an empty one. -/
def accept (s : Switch) (value : Option String) (d : Draft) : Except Fault Draft :=
  match value with
  | none => .error (.valueMissing s)
  | some value =>
    if d.given.contains s then .error (.repeated s)
    else assign s value { d with given := s :: d.given }

/-- Accepts the option that is pending. -/
def settle (r : Reader) : Except Fault Reader :=
  match r.pending with
  | none => .ok r
  | some (s, value) => (accept s value r.draft).map fun d => { r with draft := d, pending := none }

/-! ## Arguments -/

/-- The option that waits for its value. -/
def awaiting? (r : Reader) : Option Switch :=
  match r.pending with
  | some (s, none) => some s
  | _ => none

/-- Whether a text looks like the digits of a number, possibly with a point or an exponent. -/
def looksNumeric (cs : List Char) : Bool :=
  let mantissa := cs.takeWhile fun c => c ≠ 'e' && c ≠ 'E'
  let exponent := (cs.dropWhile fun c => c ≠ 'e' && c ≠ 'E').drop 1
  let digits (cs : List Char) : Bool := cs.all Char.isDigit
  let plain := digits mantissa ||
    (mantissa.head?.any Char.isDigit && digits (mantissa.erase '.'))
  plain && digits exponent &&
    (cs.length = mantissa.length || !(mantissa.isEmpty || exponent.isEmpty))

/-- Takes an option that has no value. -/
def takeFlag (s : Switch) (r : Reader) : Except Stop Reader := do
  let r ← (settle r).mapError .fault
  match s with
  | .help => .error (.answer (.help r.verb))
  | .version => .error (.answer .version)
  | s => (accept s (some "") r.draft).mapError .fault |>.map fun d => { r with draft := d }

/-- Takes an option by its long name, with the value behind an equals sign if there is one. -/
def takeLong (name : String) (value : Option String) (r : Reader) : Except Stop Reader :=
  match (Switch.known r.verb).find? (·.name == name) with
  | none => .error (.fault (.unexpectedArgument s!"--{name}"))
  | some s =>
    if s.placeholder?.isSome then do
      let r ← (settle r).mapError .fault
      match value with
      | none => .ok { r with pending := some (s, none) }
      | some value =>
        (accept s (some value) r.draft).mapError .fault |>.map fun d => { r with draft := d }
    else
      match value with
      | some value => .error (.fault (.unexpectedValue s value))
      | none => takeFlag s r

/-- Takes options by their letters. -/
def takeLetters (cs : List Char) (r : Reader) : Except Stop Reader :=
  cs.foldlM
    (fun r c =>
      match (Switch.known r.verb).find? (·.letter? == some c) with
      | some s => takeFlag s r
      | none => .error (.fault (.unexpectedArgument (String.ofList ['-', c]))))
    r

/-- Takes an argument that is no option: the value that is waited for, or an operand. -/
def takePlain (argument : String) (r : Reader) : Except Stop Reader :=
  match awaiting? r, r.literal with
  | some s, false => .ok { r with pending := some (s, some argument) }
  | _, _ =>
    match r.verb with
    | none =>
      if r.literal && (argument == helpWord || (Verb.ofName? argument).isSome) then
        .error (.fault (.unexpectedArgument argument))
      else .error (.fault (.unknownCommand argument))
    | some verb =>
      if verb.operand?.isSome && r.draft.operand.isNone then do
        let r ← (settle r).mapError .fault
        return { r with draft := { r.draft with operand := some argument } }
      else .error (.fault (.unexpectedArgument argument))

/-- Takes an argument that is no command. -/
def take (argument : String) (r : Reader) : Except Stop Reader :=
  if r.literal then takePlain argument r
  else
    match argument.toList with
    | ['-', '-'] => .ok { r with literal := true }
    | '-' :: '-' :: cs =>
      let value := match cs.dropWhile (· ≠ '=') with
        | _ :: value => some (String.ofList value)
        | [] => none
      takeLong (String.ofList (cs.takeWhile (· ≠ '='))) value r
    | '-' :: c :: cs =>
      if awaiting? r = some .windowMs && looksNumeric (c :: cs) then takePlain argument r
      else takeLetters (c :: cs) r
    | _ => takePlain argument r

/-- What a word behind `help` asks for: a command, or help itself. -/
def topic? (word : String) : Option (Option Verb) :=
  if word == helpWord then some none else (Verb.ofName? word).map some

/-- What the words behind `help` ask for. There is help on one command at most. -/
def helpOn : List String → Except Stop Reader
  | [] => .error (.answer (.help none))
  | word :: rest =>
    match topic? word, rest with
    | some verb, [] => .error (.answer (.help verb))
    | some _, next :: _ => .error (.fault (.unknownCommand next))
    | none, _ => .error (.fault (.unknownCommand word))

/-- Takes all arguments. A command is looked for until there is one, where no value is waited for
and operands have not begun. -/
def takeAll (r : Reader) : List String → Except Stop Reader
  | [] => .ok r
  | argument :: rest =>
    if r.verb.isNone && !r.literal && (awaiting? r).isNone then
      if argument == helpWord then helpOn rest
      else
        match Verb.ofName? argument with
        | some verb => takeAll { verb := some verb, outer := (r.draft, r.pending) } rest
        | none => (take argument r).bind fun r => takeAll r rest
    else (take argument r).bind fun r => takeAll r rest

/-! ## The whole line -/

/-- The command that was given. -/
def command (verb : Verb) (d : Draft) : Except Fault Command :=
  match verb, d.operand with
  | .watch, _ => .ok .watch
  | .health, _ => .ok .health
  | .scan, some path => .ok (.scan path (!d.noRecursive) d.maxFailures)
  | .preview, some effectType => .ok (.preview effectType d.windowMs)
  | verb, none => .error (.operandMissing verb)

/-- What a line asks for that has been read to its end. -/
def conclude (r : Reader) : Except Fault Request := do
  let r ← settle r
  match r.verb with
  | none => .error (if r.draft.given.isEmpty then .nothingGiven else .commandMissing)
  | some verb =>
    let command ← command verb r.draft
    let outer ← settle { draft := r.outer.1, pending := r.outer.2 }
    return .run
      { config := r.draft.config.or outer.draft.config
        apiUrl := r.draft.apiUrl.or outer.draft.apiUrl
        wsUrl := r.draft.wsUrl.or outer.draft.wsUrl
        command := command }

/-- What a command line asks for. -/
def read (arguments : List String) : Except Fault Request :=
  match takeAll {} arguments with
  | .ok r => conclude r
  | .error (.fault f) => .error f
  | .error (.answer a) => .ok a

end BackendMonitor.CommandLine
