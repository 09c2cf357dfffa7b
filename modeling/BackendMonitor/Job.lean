import BackendMonitor.Job.Snapshot

/-!
# Jobs

What a client knows of a job that it submitted. Snapshots are applied one after the other; the
status never goes back, and a job that is over stays as it is.
-/

namespace BackendMonitor

open Json

/-- What is known of a job. -/
structure Job where
  id : String
  status : JobStatus := .pending
  progress : Option Progress := none
  result : Option Value := none
  error : Option String := none
deriving Repr

/-- What a snapshot did to a job. -/
inductive JobUpdate where
  /-- The job was over already. -/
  | ignored
  | updated
  /-- The job is over now. -/
  | terminal (status : JobStatus)
deriving DecidableEq, Repr

namespace Job

/-- The reason of a failure that was reported without one. -/
def unexplained : String := "job failed"

/-- Applies a snapshot. Progress is taken from every snapshot of a live job; the status only moves
forward, and what comes with the end is taken together with it. -/
def apply (job : Job) (s : JobSnapshot) : Job × JobUpdate :=
  if job.status.isTerminal then (job, .ignored)
  else
    let job := { job with progress := s.progress }
    if s.status.rank ≤ job.status.rank then (job, .updated)
    else
      let job := { job with status := s.status }
      match s.status with
      | .completed => ({ job with result := s.result }, .terminal .completed)
      | .failed => ({ job with error := some (s.error.getD unexplained) }, .terminal .failed)
      | .cancelled => ({ job with error := s.error }, .terminal .cancelled)
      | .pending | .running => (job, .updated)

/-- Applies snapshots in order. -/
def applyAll (job : Job) (snapshots : List JobSnapshot) : Job :=
  snapshots.foldl (fun job s => (job.apply s).1) job

/-- Whether two optional things are the same. -/
def sameOption {α : Type} (same : α → α → Bool) : Option α → Option α → Bool
  | none, none => true
  | some a, some b => same a b
  | _, _ => false

/-- Whether two jobs are the same; progress is compared as numbers are. -/
def same (a b : Job) : Bool :=
  a.id == b.id && a.status == b.status && sameOption Progress.same a.progress b.progress &&
    sameOption Value.same a.result b.result && a.error == b.error

/-- A job as a value. -/
def toValue (job : Job) : Value :=
  .object
    [ ("id", .text job.id),
      ("status", .text job.status.name),
      ("progress", (job.progress.map fun p => Value.float p.value).getD .null),
      ("result", job.result.getD .null),
      ("error", .textOrNull job.error) ]

end Job

end BackendMonitor
