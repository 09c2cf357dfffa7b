import BackendMonitor.Job

/-!
# Poller states

What observers of a poller see: how far it has come with its job, the job as it is known, and why
the poller failed, if it did.
-/

namespace BackendMonitor

open Json

/-- How far a poller has come with its job. -/
inductive PollerPhase where
  | idle
  | submitting
  | polling
  /-- The server was asked to cancel the job; polling goes on until it is over. -/
  | cancelling
  | completed
  | failed
  | cancelled
deriving DecidableEq, Repr, Inhabited

namespace PollerPhase

/-- Whether a phase is never left. -/
def isTerminal : PollerPhase → Bool
  | .completed | .failed | .cancelled => true
  | _ => false

/-- The phase for the status with which a job ended. -/
def ofStatus : JobStatus → PollerPhase
  | .completed => .completed
  | .cancelled => .cancelled
  | _ => .failed

/-- The name of a phase. -/
def name : PollerPhase → String
  | .idle => "Idle"
  | .submitting => "Submitting"
  | .polling => "Polling"
  | .cancelling => "Cancelling"
  | .completed => "Completed"
  | .failed => "Failed"
  | .cancelled => "Cancelled"

end PollerPhase

/-- What observers of a poller see. -/
structure PollerState where
  phase : PollerPhase := .idle
  /-- The job, once the server has accepted it. -/
  job : Option Job := none
  /-- Why the poller failed. -/
  error : Option String := none
deriving Repr, Inhabited

namespace PollerState

/-- The poller failed for a reason. -/
def fail (reason : String) (s : PollerState) : PollerState :=
  { s with phase := .failed, error := some reason }

/-- The server accepted the job. -/
def accept (jobId : String) (s : PollerState) : PollerState :=
  { s with phase := .polling, job := some { id := jobId } }

/-- What a snapshot of the job does to the state. -/
inductive Change where
  /-- The job was over already. -/
  | none
  /-- The job is live and the same as before. -/
  | unseen (state : PollerState)
  | seen (state : PollerState)
  /-- The job is over now. -/
  | final (state : PollerState)

/-- Applies a snapshot to the job. -/
def apply (snapshot : JobSnapshot) (s : PollerState) : Change :=
  match s.job with
  | .none => .none
  | some job =>
    match job.apply snapshot with
    | (_, .ignored) => .none
    | (after, .updated) =>
      let next := { s with job := some after }
      if after.same job then .unseen next else .seen next
    | (after, .terminal status) =>
      .final
        { phase := .ofStatus status
          job := some after
          error := if status = .failed then after.error else s.error }

/-- A state as a value. -/
def toValue (s : PollerState) : Value :=
  .object
    [ ("phase", .text s.phase.name),
      ("terminal", .bool s.phase.isTerminal),
      ("job", (s.job.map Job.toValue).getD .null),
      ("error", .textOrNull s.error) ]

end PollerState

end BackendMonitor
