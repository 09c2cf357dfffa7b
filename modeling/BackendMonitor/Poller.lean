import BackendMonitor.Poller.Epochs
import BackendMonitor.Poller.State
import BackendMonitor.Poller.Ticker
import BackendMonitor.Settings
import BackendMonitor.Watched

/-!
# Pollers

A poller submits one job and follows it to its end. Its task has at most one submission, one poll
and one request to cancel under way at a time; the answers come whenever the server gives them,
or never. How the job ends is decided by the polls alone.

* `Poller.submit`, `Poller.cancel`, `Poller.dispose`, `Poller.drop` are the calls of the owner,
  each one step;
* `Poller.waited?` is what one who waits for the end is told;
* `Poller.answer` is the arrival of an answer, which the task notices at its next turn;
* `Poller.turn` is one step of the task. What comes first at one instant is fixed: the end of the
  poller, a request of the owner to cancel, the answer to such a request, the answer to a poll, and
  last the next poll.
-/

namespace BackendMonitor

/-- A call to the server. -/
inductive Poller.Call (ρ : Type) where
  | submit (request : ρ)
  | status (jobId : String)
  | cancel (jobId : String)
deriving Repr

/-- The answer to a call. -/
inductive Poller.Answer where
  | submitted (result : Except Failure String)
  | status (result : Except Failure JobSnapshot)
  | cancelled (result : Except Failure Unit)

/-- What one who waits for the end of the job is told. -/
inductive Poller.Waited where
  /-- The terminal state of the poller. -/
  | ended (state : PollerState)
  | disposed

/-- A poll under way: its number, and its result once it is there. -/
structure Poller.PollInFlight where
  epoch : Nat
  result : Option (Except Failure JobSnapshot) := none

/-- A request to cancel under way: its result, once it is there. -/
structure Poller.CancelInFlight where
  result : Option (Except Failure Unit) := none

/-- What the task knows while it follows a job. -/
structure Poller.Tracking where
  jobId : String
  ticker : Ticker
  poll : Option Poller.PollInFlight := none
  cancel : Option Poller.CancelInFlight := none
  epochs : Epochs := {}
  /-- The number of polls in a row that failed for a passing reason. -/
  failures : UInt32 := 0

/-- How far the task has come. -/
inductive Poller.Task (ρ : Type) where
  /-- There is no task yet. -/
  | unstarted
  /-- The task has not taken its first turn. -/
  | starting (request : ρ)
  /-- The submission is under way; its result, once it is there. -/
  | submitting (result : Option (Except Failure String))
  | tracking (t : Poller.Tracking)
  | ended

/-- A poller for requests of type `ρ`. -/
structure Poller (ρ : Type) where
  period : Nat
  period_pos : 0 < period
  /-- After how many failed polls in a row the poller gives up. -/
  budget : Option UInt32
  state : Watched PollerState := ⟨{}, []⟩
  disposed : Bool := false
  /-- Whether the owner still holds the poller. -/
  held : Bool := true
  /-- How many requests of the owner to cancel the task has not taken. -/
  cancels : Nat := 0
  task : Poller.Task ρ := .unstarted
  /-- The calls to the server and their instants, newest first. -/
  calls : List (Nat × Poller.Call ρ) := []

namespace Poller

variable {ρ : Type}

/-- A poller as settings ask for it. An interval of zero is refused. -/
def ofSettings (s : PollSettings) : Except Failure (Poller ρ) :=
  if h : 0 < s.intervalMs.toNat then
    .ok { period := s.intervalMs.toNat, period_pos := h, budget := s.maxConsecutiveFailures }
  else .error ⟨.invalidConfig, "Poll interval must be positive"⟩

/-- The phase of the poller. -/
def phase (p : Poller ρ) : PollerPhase :=
  p.state.value.phase

/-- Publishes a state, unless the poller is disposed. -/
def publish (s : PollerState) (p : Poller ρ) : Poller ρ :=
  if p.disposed then p else { p with state := p.state.publish s }

/-- Records a call to the server. -/
def call (now : Nat) (c : Call ρ) (p : Poller ρ) : Poller ρ :=
  { p with calls := (now, c) :: p.calls }

/-! ## The owner -/

/-- Submits the job. That is possible once; the result says whether it was. -/
def submit (request : ρ) (p : Poller ρ) : Poller ρ × Bool :=
  if p.disposed || p.phase != .idle then (p, false)
  else ({ p.publish { p.state.value with phase := .submitting } with task := .starting request },
    true)

/-- Asks the task to have the job cancelled. -/
def cancel (p : Poller ρ) : Poller ρ :=
  if p.disposed || p.phase != .polling then p else { p with cancels := p.cancels + 1 }

/-- Stops following the job. Answers that come later are not looked at. -/
def dispose (p : Poller ρ) : Poller ρ :=
  { p with disposed := true }

/-- Lets go of the poller; its task ends at its next turn. -/
def drop (p : Poller ρ) : Poller ρ :=
  { p with disposed := true, held := false }

/-- What one who waits for the end of the job is told, if the wait is over. That the poller is
disposed comes first. -/
def waited? (p : Poller ρ) : Option Waited :=
  if p.disposed then some .disposed
  else if p.phase.isTerminal then some (.ended p.state.value)
  else none

/-! ## The server -/

/-- The arrival of an answer. Without a call under way it is lost. -/
def answer (a : Answer) (p : Poller ρ) : Poller ρ :=
  match a, p.task with
  | .submitted r, .submitting none => { p with task := .submitting (some r) }
  | .status r, .tracking t =>
    { p with task := .tracking { t with poll := t.poll.map fun f => { f with result := some r } } }
  | .cancelled r, .tracking t =>
    { p with task := .tracking { t with cancel := t.cancel.map fun _ => ⟨some r⟩ } }
  | _, _ => p

/-! ## The task -/

/-- Ends the task. -/
def finish (p : Poller ρ) : Poller ρ :=
  { p with task := .ended }

/-- Goes on following the job. -/
def track (t : Tracking) (p : Poller ρ) : Poller ρ :=
  { p with task := .tracking t }

/-- The submission was answered. -/
def onSubmitted (now : Nat) (result : Except Failure String) (p : Poller ρ) : Poller ρ :=
  match result with
  | .error f => (p.publish (p.state.value.fail f.message)).finish
  | .ok jobId =>
    (p.publish (p.state.value.accept jobId)).track
      { jobId := jobId, ticker := ⟨p.period, now + p.period⟩ }

/-- The owner asks to cancel. Only one request is under way at a time. -/
def onCancel (now : Nat) (t : Tracking) (p : Poller ρ) : Poller ρ :=
  let p := { p with cancels := p.cancels - 1 }
  if t.cancel.isSome || p.disposed || p.phase != .polling then p
  else
    ((p.publish { p.state.value with phase := .cancelling }).call now (.cancel t.jobId)).track
      { t with cancel := some {} }

/-- A request to cancel was answered. If it failed the owner may ask again. -/
def onCancelled (t : Tracking) (result : Except Failure Unit) (p : Poller ρ) : Poller ρ :=
  let p := p.track { t with cancel := none }
  match result with
  | .ok () => p
  | .error _ =>
    if p.phase = .cancelling then p.publish { p.state.value with phase := .polling } else p

/-- Counts a failed poll; the count stops at the greatest number of 32 bits. -/
def countFailure (n : UInt32) : UInt32 :=
  if n = 0xFFFFFFFF then n else n + 1

/-- The reason of a poller that gives up. -/
def lostTrack (failures : UInt32) (f : Failure) : String :=
  s!"Lost track of job after {failures} failed polls: {f.message}"

/-- A poll brought a snapshot. -/
def onSnapshot (t : Tracking) (snapshot : JobSnapshot) (p : Poller ρ) : Poller ρ :=
  let p := p.track { t with failures := 0 }
  if p.disposed then p
  else
    match p.state.value.apply snapshot with
    | .none => p
    | .unseen s => { p with state := p.state.amend s }
    | .seen s => p.publish s
    | .final s => (p.publish s).finish

/-- A poll failed. A reason that does not pass ends the tracking, as does one failure too many. -/
def onPollFailed (t : Tracking) (f : Failure) (p : Poller ρ) : Poller ρ :=
  if !f.isTransient then (p.publish (p.state.value.fail f.message)).finish
  else
    let failures := countFailure t.failures
    if p.budget.any (· ≤ failures) then
      (p.publish (p.state.value.fail (lostTrack failures f))).finish
    else p.track { t with failures := failures }

/-- A poll was answered. A stale answer is not looked at. -/
def onPolled (t : Tracking) (epoch : Nat) (result : Except Failure JobSnapshot) (p : Poller ρ) :
    Poller ρ :=
  let t := { t with poll := none }
  match t.epochs.accept? epoch with
  | none => p.track t
  | some epochs =>
    let t := { t with epochs := epochs }
    match result with
    | .ok snapshot => p.onSnapshot t snapshot
    | .error f => p.onPollFailed t f

/-- Makes the next poll. -/
def onTick (now : Nat) (t : Tracking) (p : Poller ρ) : Poller ρ :=
  let epochs := t.epochs.issue
  (p.call now (.status t.jobId)).track
    { t with
      ticker := t.ticker.take now
      epochs := epochs
      poll := some { epoch := epochs.issued } }

/-- One turn of a task that follows a job. -/
def turnTracking (now : Nat) (t : Tracking) (p : Poller ρ) : Option (Poller ρ) :=
  if 0 < p.cancels then some (p.onCancel now t)
  else
    match t.cancel, t.poll with
    | some ⟨some r⟩, _ => some (p.onCancelled t r)
    | _, some ⟨epoch, some r⟩ => some (p.onPolled t epoch r)
    | _, some ⟨_, none⟩ => none
    | _, none => if t.ticker.isDue now then some (p.onTick now t) else none

/-- One turn of the task, or `none` if it has nothing to do. -/
def turn (now : Nat) (p : Poller ρ) : Option (Poller ρ) :=
  match p.task with
  | .unstarted | .ended => none
  | .starting request =>
    some (if p.disposed then p.finish
      else { p.call now (.submit request) with task := .submitting none })
  | .submitting result =>
    if p.disposed then some p.finish else result.map fun r => p.onSubmitted now r
  | .tracking t => if p.disposed then some p.finish else p.turnTracking now t

/-- When the task has something to do without an answer. -/
def due? (p : Poller ρ) : Option Nat :=
  match p.task with
  | .tracking t => if t.poll.isNone then some t.ticker.due else none
  | _ => none

/-- A bound on the number of turns that the task can take at one instant, even if every call is
answered at once. -/
def turnBound (now : Nat) (p : Poller ρ) : Nat :=
  match p.task with
  | .tracking t => 2 * p.cancels + 2 * (now + 1 - t.ticker.due) + 6
  | _ => 2 * p.cancels + 6

/-- Whether a task runs, or is about to. -/
def isRunning (p : Poller ρ) : Bool :=
  match p.task with
  | .unstarted | .ended => false
  | _ => true

/-- Whether nobody is left who could tell the observers anything. -/
def closed (p : Poller ρ) : Bool :=
  !p.held && !p.isRunning

end Poller

end BackendMonitor
