import BackendMonitor.Settings
import BackendMonitor.Watched

/-!
# Debounced values

A pipeline that turns bursts of updates into single values. Updates are accepted at once and put
into a queue; a task takes them from there, and settles the last one when no other has been
accepted for a whole window. Observers are told of a settled value only if it differs from the one
before.

* `Pipeline.update`, `Pipeline.dispose`, `Pipeline.drop` are the calls of the owner, each one step;
* `Pipeline.turn` is one step of the task, which may run late;
* `Pipeline.due?` is the instant at which the task has something to do by itself.
-/

namespace BackendMonitor.Debounce

/-- An update, with the instant at which it was accepted. -/
structure Update (α : Type) where
  value : α
  acceptedAt : Nat
deriving DecidableEq, Repr

/-- A pipeline. -/
structure Pipeline (α : Type) where
  /-- How long the input has to be quiet. -/
  window : Nat
  settled : Watched α
  /-- When the burst began that has not settled yet. -/
  pendingSince : Option Nat := none
  disposed : Bool := false
  /-- Whether the owner still holds the pipeline. -/
  held : Bool := true
  /-- Accepted updates that the task has not taken, oldest first. -/
  queue : List (Update α) := []
  /-- The update that settles when its window is over. -/
  latest : Option (Update α) := none
  /-- Whether the task runs. -/
  running : Bool := true
deriving Repr

namespace Pipeline

variable {α : Type}

/-- A pipeline with a first settled value. -/
def start (initial : α) (window : Nat) : Pipeline α :=
  { window := window, settled := ⟨initial, []⟩ }

/-- A pipeline with a window of so many milliseconds; a negative number is refused. -/
def ofMillis (initial : α) (window : Int) : Except Failure (Pipeline α) :=
  match window with
  | .ofNat n => .ok (start initial n)
  | .negSucc _ =>
    .error ⟨.invalidConfig, s!"Debounce window must not be negative (got {window}ms)"⟩

/-- A pipeline as settings ask for it. -/
def ofSettings (initial : α) (s : DebounceSettings) : Pipeline α :=
  start initial s.windowMs.toNat

/-- Starts the clock of a burst, unless one runs. -/
def markPending (now : Nat) (p : Pipeline α) : Pipeline α :=
  if p.disposed || p.pendingSince.isSome then p else { p with pendingSince := some now }

/-- Settles a value, and ends the burst. -/
def settle [BEq α] (value : α) (p : Pipeline α) : Pipeline α :=
  { p with
    settled := if p.disposed || p.settled.value == value then p.settled else p.settled.publish value
    pendingSince := none }

/-! ## The owner -/

/-- Accepts an update, unless the pipeline is disposed. -/
def update (now : Nat) (value : α) (p : Pipeline α) : Pipeline α :=
  if p.disposed then p
  else
    let p := p.markPending now
    { p with queue := p.queue ++ [⟨value, now⟩] }

/-- Gives up what has not settled. Nothing settles afterwards. -/
def dispose (p : Pipeline α) : Pipeline α :=
  if p.disposed then p else { p with disposed := true, pendingSince := none }

/-- Lets go of the pipeline; its task ends at its next turn. -/
def drop (p : Pipeline α) : Pipeline α :=
  { p with disposed := true, held := false }

/-! ## The task -/

/-- One turn of the task, or `none` if it has nothing to do: the end of the pipeline comes first,
then the updates in the queue, then the end of the window. -/
def turn [BEq α] (now : Nat) (p : Pipeline α) : Option (Pipeline α) :=
  if !p.running then none
  else if p.disposed then some { p with running := false }
  else
    match p.queue with
    | u :: rest =>
      let p := { p with queue := rest }
      if p.window = 0 then some (p.settle u.value)
      else some { p.markPending u.acceptedAt with latest := some u }
    | [] =>
      match p.latest with
      | some u =>
        if u.acceptedAt + p.window ≤ now then some ({ p with latest := none }.settle u.value)
        else none
      | none => none

/-- When the window is over. -/
def due? (p : Pipeline α) : Option Nat :=
  if p.running then p.latest.map fun u => u.acceptedAt + p.window else none

/-- A bound on the number of turns that the task can take at one instant. -/
def turnBound (p : Pipeline α) : Nat :=
  2 * p.queue.length + 2

/-- Whether nobody is left who could tell the observers anything. -/
def closed (p : Pipeline α) : Bool :=
  !p.held && !p.running

end Pipeline

end BackendMonitor.Debounce
