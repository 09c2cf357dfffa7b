import BackendMonitor.Debounce.Pipeline
import BackendMonitor.Schedule

/-!
# Rehearsing a pipeline

A pipeline under a clock that only moves when told to, with one observer. After each step of the
owner the task runs until it rests, unless the step is a race; then the entry of the step is made.
-/

namespace BackendMonitor.Debounce

/-- What the owner does. -/
inductive Action (α : Type) where
  | update (values : List α)
  | dispose
  | drop
  | advance (ms : Nat)
  | look

/-- A step of a rehearsal. After a race the task has not run yet. -/
structure Step (α : Type) where
  action : Action α
  race : Bool := false

/-- What the owner sees of a pipeline. -/
structure View (α : Type) where
  settled : α
  pendingSince : Option Nat
  disposed : Bool

/-- What is seen after a step. -/
structure Entry (α : Type) where
  now : Nat
  /-- Whether the observer was told of something since the entry before. -/
  changed : Bool
  closed : Bool
  /-- The value that the observer sees. -/
  seen : α
  /-- What the owner sees, as long as there is one. -/
  view : Option (View α)

/-- A pipeline under a clock, with one observer. -/
structure Rehearsal (α : Type) where
  pipeline : Pipeline α
  now : Nat := 0
  /-- How many values the observer was told of when it last looked. -/
  noted : Nat := 0

namespace Rehearsal

variable {α : Type} [BEq α]

/-- Lets the task run until it rests. -/
def rest (now : Nat) (p : Pipeline α) : Pipeline α :=
  Schedule.runTurns (·.turn now) p.turnBound p

/-- Lets time pass. -/
def advance (ms : Nat) (r : Rehearsal α) : Rehearsal α :=
  let target := r.now + ms
  { r with
    pipeline := Schedule.passTime Pipeline.due? rest target ms r.now (rest r.now r.pipeline)
    now := target }

/-- What an action does before the task runs. Without an owner only time can pass. -/
def act (action : Action α) (r : Rehearsal α) : Rehearsal α :=
  match action with
  | .advance ms => r.advance ms
  | .look => r
  | .update values =>
    if r.pipeline.held then
      { r with pipeline := values.foldl (fun p v => p.update r.now v) r.pipeline }
    else r
  | .dispose => if r.pipeline.held then { r with pipeline := r.pipeline.dispose } else r
  | .drop => if r.pipeline.held then { r with pipeline := r.pipeline.drop } else r

/-- Makes an entry; the observer has looked then. -/
def entry (r : Rehearsal α) : Rehearsal α × Entry α :=
  let p := r.pipeline
  ( { r with noted := p.settled.count },
    { now := r.now
      changed := !p.closed && p.settled.count != r.noted
      closed := p.closed
      seen := p.settled.value
      view := if p.held then some ⟨p.settled.value, p.pendingSince, p.disposed⟩ else none } )

/-- One step, and its entry. -/
def step (s : Step α) (r : Rehearsal α) : Rehearsal α × Entry α :=
  let r := r.act s.action
  (if s.race then r else { r with pipeline := rest r.now r.pipeline }).entry

/-- All steps in order. -/
def run (r : Rehearsal α) : List (Step α) → List (Entry α)
  | [] => []
  | s :: rest => (r.step s).2 :: run (r.step s).1 rest

end Rehearsal

end BackendMonitor.Debounce
