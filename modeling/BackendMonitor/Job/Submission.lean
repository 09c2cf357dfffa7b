import BackendMonitor.Json.Decoder
import BackendMonitor.Json.Printer

/-!
# Submitting jobs

The request for a scan, and the answer to it.
-/

namespace BackendMonitor

open Json

/-- The request to scan a directory of the server. -/
structure ScanRequest where
  path : String
  /-- Whether directories inside it are scanned too. -/
  recursive : Bool := true
deriving DecidableEq, Repr, Inhabited

namespace ScanRequest

/-- The fields of a scan request. -/
def record : Record ScanRequest where
  name := "ScanRequest"
  fields :=
    [ .of "path" true .text fun v r => { r with path := v },
      .of "recursive" false .bool fun v r => { r with recursive := v } ]
  blank := { path := "" }

/-- Reads a scan request. -/
def decoder : Decoder ScanRequest :=
  record.decoder

/-- A scan request as a value. -/
def toValue (r : ScanRequest) : Value :=
  .object [("path", .text r.path), ("recursive", .bool r.recursive)]

/-- A scan request as a document. -/
def toText (r : ScanRequest) : String :=
  r.toValue.compactText

end ScanRequest

/-- The answer to a submission: the job that was made. -/
structure Submission where
  jobId : String
deriving DecidableEq, Repr, Inhabited

/-- The field of a submission. -/
def Submission.record : Record Submission where
  name := "JobSubmitResponse"
  fields := [.of "job_id" true .text fun v _ => ⟨v⟩]
  blank := ⟨""⟩

/-- Reads a submission. -/
def Submission.decoder : Decoder Submission :=
  record.decoder

end BackendMonitor
