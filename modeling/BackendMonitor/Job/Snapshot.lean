import BackendMonitor.Job.Status
import BackendMonitor.Json.Printer
import BackendMonitor.Progress

/-!
# Job snapshots

One report of the server on a job. Reading a report settles the spelling of the status, the
progress, and the reason of a timeout, so a snapshot that is written and read again stays the same.
-/

namespace BackendMonitor

open Json

/-- One report on a job. -/
structure JobSnapshot where
  jobId : String
  status : JobStatus
  progress : Option Progress := none
  result : Option Value := none
  error : Option String := none
deriving Repr

/-- A report as the server words it. -/
structure JobReport where
  jobId : String := ""
  status : String := ""
  progress : Option Float := none
  result : Option Value := none
  error : Option String := none
deriving Repr

namespace JobReport

/-- The fields of a report. -/
def record : Record JobReport where
  name := "RawJobSnapshot"
  fields :=
    [ .of "job_id" true .text fun v r => { r with jobId := v },
      .of "status" true .text fun v r => { r with status := v },
      .of "progress" false (.optional .float) fun v r => { r with progress := v },
      .of "result" false (.optional .any) fun v r => { r with result := v },
      .of "error" false (.optional .text) fun v r => { r with error := v } ]
  blank := {}

/-- The snapshot that a report means. A reason given in the report wins over the one that the
status implies. -/
def snapshot (r : JobReport) : Except Fault JobSnapshot :=
  match JobStatus.reported? r.status with
  | none => .error (.rejected s!"unknown job status '{r.status}'")
  | some (status, implied) =>
    .ok
      { jobId := r.jobId
        status := status
        progress := r.progress.bind Progress.ofFloat?
        result := r.result
        error := r.error.orElse fun _ => implied }

end JobReport

namespace JobSnapshot

/-- Reads a snapshot. -/
def decoder : Decoder JobSnapshot :=
  JobReport.record.decoder.refine JobReport.snapshot

/-- A snapshot as a value. -/
def toValue (s : JobSnapshot) : Value :=
  .object
    [ ("job_id", .text s.jobId),
      ("status", .text s.status.name),
      ("progress", (s.progress.map fun p => Value.float p.value).getD .null),
      ("result", s.result.getD .null),
      ("error", .textOrNull s.error) ]

/-- A snapshot as a document. -/
def toText (s : JobSnapshot) : String :=
  s.toValue.compactText

end JobSnapshot

end BackendMonitor
