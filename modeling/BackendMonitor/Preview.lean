import BackendMonitor.Client
import BackendMonitor.Debounce.Pipeline
import BackendMonitor.Schedule

/-!
# Previews

Parameters are read line by line, and the filter for them is shown when no others have come for a
while. A preview that is under way when newer parameters settle is given up. At the end of the input
the last parameters are still waited for, and so is their preview.

* `Preview.arrive`, `Preview.interrupt` and `Preview.answer` are what comes from outside;
* `Preview.settle` is one turn of the pipeline that holds the parameters back, and `Preview.turn`
  one turn of the loop that shows previews. What comes first in the loop at one instant is fixed: an
  interrupt, settled parameters, a line, and last the end of the wait after the input.
-/

namespace BackendMonitor

open Json

/-- What the input brings. -/
inductive Preview.Input where
  /-- A line, with the line end if it has one. -/
  | line (bytes : List UInt8)
  | ended
deriving DecidableEq, Repr

/-- A preview that was asked for. -/
structure Preview.Asked where
  parameters : Value
  /-- When it was asked for. -/
  instant : Nat

/-- How far the program has come. -/
inductive Preview.Stage where
  /-- It reads lines, and waits for parameters to settle. -/
  | reading
  /-- The input is over; the parameters that came last may still settle. -/
  | draining
  /-- It only waits for the preview that is under way. -/
  | finishing
  | ended
  /-- It gave up because of a line. -/
  | failed (reason : String)
deriving DecidableEq, Repr

/-- A program that shows previews. -/
structure Preview where
  pipeline : Debounce.Pipeline (Option Value)
  /-- Input that has arrived and was not taken, oldest first. -/
  input : List Preview.Input := []
  interrupted : Bool := false
  stage : Preview.Stage := .reading
  /-- How many settled values the loop has looked at. -/
  noticed : Nat := 0
  /-- When the loop began to wait. -/
  waitingSince : Nat := 0
  /-- Whether the last preview that was asked for is not answered. -/
  underWay : Bool := false
  /-- The previews that were asked for, newest first. -/
  asked : List Preview.Asked := []
  /-- The filters that were shown, newest first. -/
  shown : List String := []

namespace Preview

/-- How long the parameters may take to settle after the end of the input, beyond the window. -/
def drainMargin : Nat := 50

/-- A program whose window has so many milliseconds; a negative number is refused. -/
def start (window : Int) : Except Failure Preview :=
  (Debounce.Pipeline.ofMillis none window).map fun p => { pipeline := p }

/-! ## Lines -/

/-- The bytes of a line without its end: a line feed, possibly behind a carriage return. -/
def withoutEnd (bytes : List UInt8) : List UInt8 :=
  match bytes.reverse with
  | 0x0A :: 0x0D :: front | 0x0A :: front => front.reverse
  | _ => bytes

/-- What is wrong with the bytes of a line. -/
def lineProblem? (bytes : List UInt8) : Option String :=
  (Text.Utf8.firstDefect bytes).map Text.Utf8.Defect.message

/-- The parameters in a line. Only objects are parameters; all else is passed over. -/
def parameters? (line : String) : Option Value :=
  match Value.ofText (Text.trim line) with
  | .ok v => if v.isObject then some v else none
  | .error _ => none

/-- Cuts bytes into lines. -/
def lines : List UInt8 → List (List UInt8)
  | [] => []
  | b :: bs =>
    if b = 0x0A then [b] :: lines bs
    else
      match lines bs with
      | line :: rest => (b :: line) :: rest
      | [] => [[b]]

/-! ## From outside -/

/-- Input arrives. -/
def arrive (i : Input) (p : Preview) : Preview :=
  { p with input := p.input ++ [i] }

/-- The program is interrupted. -/
def interrupt (p : Preview) : Preview :=
  { p with interrupted := true }

/-- A preview is answered; they are numbered from one. The filter is shown, unless newer parameters
have settled; a failure is not shown. -/
def answer (number : Nat) (result : Except Failure String) (p : Preview) : Preview :=
  if p.underWay && number = p.asked.length then
    { p with underWay := false, shown := result.toOption.toList ++ p.shown }
  else p

/-! ## Turns -/

/-- One turn of the pipeline. -/
def settle (now : Nat) (p : Preview) : Option Preview :=
  (p.pipeline.turn now).map fun q => { p with pipeline := q }

/-- The loop goes on to wait. -/
def wait (now : Nat) (p : Preview) : Preview :=
  { p with waitingSince := now }

/-- The loop ends. -/
def finish (p : Preview) : Preview :=
  { p with pipeline := p.pipeline.dispose, stage := .finishing }

/-- Parameters have settled: the preview that is under way is given up for theirs. -/
def onSettled (now : Nat) (p : Preview) : Preview :=
  let p := { p with noticed := p.pipeline.settled.count }
  match p.pipeline.settled.value with
  | none => p
  | some v => { p with underWay := true, asked := ⟨v, now⟩ :: p.asked }

/-- A line is read. -/
def onLine (now : Nat) (bytes : List UInt8) (p : Preview) : Preview :=
  let bytes := withoutEnd bytes
  match Text.Utf8.text? bytes with
  | none => { p with stage := .failed ((lineProblem? bytes).getD "") }
  | some line =>
    match parameters? line with
    | none => p
    | some v => { p with pipeline := p.pipeline.update now (some v) }

/-- The input that the loop takes next. -/
def onInput (now : Nat) (i : Input) (p : Preview) : Preview :=
  match i with
  | .line bytes => p.onLine now bytes
  | .ended => { p with stage := .draining }

/-- When the wait after the end of the input is over. -/
def drained (p : Preview) : Nat :=
  p.waitingSince + p.pipeline.window + drainMargin

/-- One turn of the loop, or `none` if it has nothing to do. -/
def turn (now : Nat) (p : Preview) : Option Preview :=
  match p.stage with
  | .ended | .failed _ => none
  | .finishing => if p.underWay then none else some { p with stage := .ended }
  | stage =>
    if p.interrupted then some p.finish
    else if p.noticed < p.pipeline.settled.count then some (p.onSettled now |>.wait now)
    else
      match stage, p.input with
      | .reading, i :: rest => some ({ p with input := rest }.onInput now i |>.wait now)
      | .draining, _ => if p.drained ≤ now then some p.finish else none
      | _, _ => none

/-- When something happens without anything from outside. -/
def due? (p : Preview) : Option Nat :=
  match p.stage with
  | .reading => p.pipeline.due?
  | .draining => (p.drained :: p.pipeline.due?.toList).min?
  | _ => none

/-! ## Running -/

/-- One turn of the program: of the loop, or of the pipeline where the loop has nothing to do. A
preview is answered as soon as it is asked for. -/
def step (result : Value → Except Failure String) (now : Nat) (p : Preview) : Option Preview :=
  match p.turn now with
  | none => p.settle now
  | some q =>
    match q.asked.drop p.asked.length with
    | [] => some q
    | _ => q.asked.head?.map fun a => q.answer q.asked.length (result a.parameters)

/-- A bound on the number of turns at one instant. -/
def turnBound (p : Preview) : Nat :=
  4 * p.input.length + p.pipeline.turnBound + 6

/-- Lets the program run until it rests. -/
def rest (result : Value → Except Failure String) (now : Nat) (p : Preview) : Preview :=
  Schedule.runTurns (step result now) p.turnBound p

/-- Goes from one instant at which something is due to the next, so many times at most. -/
def runOn (result : Value → Except Failure String) : Nat → Preview → Preview
  | 0, p => p
  | limit + 1, p =>
    match p.due? with
    | some instant => runOn result limit (p.rest result instant)
    | none => p

/-- Runs a program whose whole input is there from the start. Then at most the window and the wait
after the input are due. -/
def run (result : Value → Except Failure String) (input : List UInt8) (p : Preview) : Preview :=
  let p := { p with input := (lines input).map Input.line ++ [Input.ended] }
  runOn result 3 (p.rest result 0)

/-- What is printed. -/
def output (p : Preview) : String :=
  String.join (p.shown.reverse.map (· ++ "\n"))

end Preview

end BackendMonitor
