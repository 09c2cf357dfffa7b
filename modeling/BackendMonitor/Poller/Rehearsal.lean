import BackendMonitor.Poller
import BackendMonitor.Schedule

/-!
# Rehearsing a poller

A poller under a clock that only moves when told to, with a server that answers from a script and
with one observer. After each step of the owner the task runs until it rests, unless the step is a
race; then the entry of the step is made.
-/

namespace BackendMonitor.Poller.Rehearsal

/-- How the server answers a call: with what result, if ever, and how long after the call. -/
structure Reply (α : Type) where
  result : Option (Except Failure α)
  delay : Nat := 0

/-- How the server answers all calls. Polls and requests to cancel take the replies in order. -/
structure Script where
  submission : Reply String
  statuses : List (Reply JobSnapshot) := []
  cancels : List (Reply Unit) := []

/-- What the owner does. -/
inductive Action (ρ : Type) where
  | submit (request : ρ)
  | cancel (times : Nat)
  | dispose
  | drop
  /-- Disposes of the poller, waits for its task to end, and lets go of it. -/
  | shutdown
  /-- Waits for a terminal phase, for a limited time. -/
  | waitTerminal (limit : Nat)
  | advance (ms : Nat)
  | look

/-- A step of a rehearsal. After a race the task has not run yet. -/
structure Step (ρ : Type) where
  action : Action ρ
  race : Bool := false

/-- What a step gives back to the owner. -/
inductive Returned where
  | accepted (yes : Bool)
  | waited (w : Waited)
  | timeout

/-- What is seen after a step. -/
structure Entry (ρ : Type) where
  now : Nat
  /-- Whether the observer was told of something since the entry before. -/
  changed : Bool
  closed : Bool
  state : PollerState
  /-- The calls since the entry before, with their instants. -/
  calls : List (Nat × Call ρ)
  /-- Whether the poller is disposed, as long as there is an owner to ask. -/
  disposed : Option Bool
  returned : Option Returned

end BackendMonitor.Poller.Rehearsal

namespace BackendMonitor.Poller

/-- A poller under a clock, with a server and one observer. -/
structure Rehearsal (ρ : Type) where
  poller : Poller ρ
  script : Rehearsal.Script
  now : Nat := 0
  /-- The answers on their way, with the instants at which they arrive. -/
  arriving : List (Nat × Answer) := []
  /-- How many states the observer was told of when it last looked. -/
  noted : Nat := 0
  /-- How many calls earlier entries have shown. -/
  shown : Nat := 0

namespace Rehearsal

variable {ρ : Type}

/-- The arrival of a reply to a call that is made now. -/
def arrival {α : Type} (now : Nat) (answer : Except Failure α → Answer) (reply : Reply α) :
    List (Nat × Answer) :=
  match reply.result with
  | some result => [(now + reply.delay, answer result)]
  | none => []

/-- A server that has no more replies reports that the job runs. -/
def stillRunning (jobId : String) : Reply JobSnapshot :=
  ⟨some (.ok { jobId := jobId, status := .running }), 0⟩

/-- Lets the server take the next reply for a call. -/
def receive (now : Nat) (r : Rehearsal ρ) : Call ρ → Rehearsal ρ
  | .submit _ =>
    { r with arriving := r.arriving ++ arrival now .submitted r.script.submission }
  | .status jobId =>
    let reply := r.script.statuses.headD (stillRunning jobId)
    { r with
      arriving := r.arriving ++ arrival now .status reply
      script := { r.script with statuses := r.script.statuses.tail } }
  | .cancel _ =>
    let reply := r.script.cancels.headD ⟨some (.ok ()), 0⟩
    { r with
      arriving := r.arriving ++ arrival now .cancelled reply
      script := { r.script with cancels := r.script.cancels.tail } }

/-- Hands over the answers that have arrived. -/
def deliver (now : Nat) (r : Rehearsal ρ) : Rehearsal ρ :=
  { r with
    poller := (r.arriving.filter (·.1 ≤ now)).foldl (fun p a => p.answer a.2) r.poller
    arriving := r.arriving.filter (now < ·.1) }

/-- One turn of the task, at which the server receives the calls that it makes. -/
def turn (now : Nat) (r : Rehearsal ρ) : Option (Rehearsal ρ) :=
  let r := r.deliver now
  (r.poller.turn now).map fun p =>
    let made := p.calls.take (p.calls.length - r.poller.calls.length)
    made.reverse.foldl (fun r c => r.receive now c.2) { r with poller := p }

/-- Lets the task run until it rests. -/
def rest (now : Nat) (r : Rehearsal ρ) : Rehearsal ρ :=
  { (Schedule.runTurns (turn now) (r.poller.turnBound now) r).deliver now with now := now }

/-- When something happens by itself. -/
def due? (r : Rehearsal ρ) : Option Nat :=
  (r.poller.due?.toList ++ r.arriving.map (·.1)).min?

/-- Lets time pass. -/
def advance (ms : Nat) (r : Rehearsal ρ) : Rehearsal ρ :=
  Schedule.passTime due? rest (r.now + ms) ms r.now (r.rest r.now)

/-- Goes from instant to instant until the wait is answered, before `target`. -/
def waitUntil (target : Nat) : Nat → Rehearsal ρ → Rehearsal ρ × Returned
  | 0, r => ({ r with now := target }, .timeout)
  | limit + 1, r =>
    match r.poller.waited? with
    | some w => (r, .waited w)
    | none =>
      match r.due? with
      | some instant =>
        if r.now < instant && instant < target then waitUntil target limit (r.rest instant)
        else ({ r with now := target }, .timeout)
      | none => ({ r with now := target }, .timeout)

/-- Waits for a terminal phase, for a limited time. -/
def waitTerminal (limit : Nat) (r : Rehearsal ρ) : Rehearsal ρ × Returned :=
  match r.poller.waited? with
  | some w => (r, .waited w)
  | none =>
    if limit = 0 then (r, .timeout)
    else waitUntil (r.now + limit) (limit + 1) (r.rest r.now)

/-- What an action does before the task runs. Without an owner only time can pass. -/
def act (action : Action ρ) (r : Rehearsal ρ) : Rehearsal ρ × Option Returned :=
  match action with
  | .advance ms => (r.advance ms, none)
  | .look => (r, none)
  | action =>
    if !r.poller.held then (r, none)
    else
      match action with
      | .submit request =>
        let (p, accepted) := r.poller.submit request
        ({ r with poller := p }, some (.accepted accepted))
      | .cancel times =>
        ({ r with poller := (List.replicate times ()).foldl (fun p _ => p.cancel) r.poller }, none)
      | .dispose => ({ r with poller := r.poller.dispose }, none)
      | .drop => ({ r with poller := r.poller.drop }, none)
      | .shutdown =>
        let r := { r with poller := r.poller.dispose }.rest r.now
        ({ r with poller := r.poller.drop }, none)
      | .waitTerminal limit =>
        let (r, returned) := r.waitTerminal limit
        (r, some returned)
      | .advance _ | .look => (r, none)

/-- Makes an entry; the observer has looked then. -/
def entry (returned : Option Returned) (r : Rehearsal ρ) : Rehearsal ρ × Entry ρ :=
  let p := r.poller
  ( { r with noted := p.state.count, shown := p.calls.length },
    { now := r.now
      changed := !p.closed && p.state.count != r.noted
      closed := p.closed
      state := p.state.value
      calls := (p.calls.take (p.calls.length - r.shown)).reverse
      disposed := if p.held then some p.disposed else none
      returned := returned } )

/-- One step, and its entry. -/
def step (s : Step ρ) (r : Rehearsal ρ) : Rehearsal ρ × Entry ρ :=
  let (r, returned) := r.act s.action
  (if s.race then r else r.rest r.now).entry returned

/-- All steps in order. -/
def run (r : Rehearsal ρ) : List (Step ρ) → List (Entry ρ)
  | [] => []
  | s :: rest => (r.step s).2 :: run (r.step s).1 rest

end Rehearsal

end BackendMonitor.Poller
