import BackendMonitor.Health
import BackendMonitor.Http
import BackendMonitor.Job.Snapshot
import BackendMonitor.Job.Submission
import BackendMonitor.Settings

/-!
# The client

The calls to the REST interface of the backend. Each call is an exchange, unless it fails before
anything is sent.

* `Client.submitScan`, `Client.jobStatus`, `Client.cancelJob`, `Client.previewEffect` and
  `Client.readiness` are the calls as they are;
* those in the namespace `Client.Checked` look at their arguments first, so that nothing is sent for
  a blank path, job or effect.
-/

namespace BackendMonitor

open Json Http

/-- A client of the backend at an origin. -/
structure Client where
  /-- The origin, without a slash at its end. -/
  baseUrl : String
  /-- How long a request may take. -/
  timeoutMs : Nat := 10000
deriving DecidableEq, Repr

namespace Client

/-- A text without the slashes at its end. -/
def dropSlashes (s : String) : String :=
  String.ofList (s.toList.reverse.dropWhile (· = '/')).reverse

/-- A client of the backend at an origin. -/
def ofBaseUrl (origin : String) (timeoutMs : Nat) : Except Failure Client :=
  let baseUrl := dropSlashes (Text.trim origin)
  if baseUrl.isEmpty then .error ⟨.invalidConfig, "API base URL is empty"⟩
  else .ok { baseUrl := baseUrl, timeoutMs := timeoutMs }

/-- A client as settings ask for it. -/
def ofSettings (s : Settings) : Except Failure Client :=
  ofBaseUrl s.apiBaseUrl s.requestTimeoutMs.toNat

/-- A request to the interface. -/
def request (c : Client) (method : Method) (path : String) (body : Option String) :
    Except Failure Request :=
  Http.request method (c.baseUrl ++ "/api/v1" ++ path) body

/-! ## Calls -/

/-- Submits a scan; the answer is the name of the job. -/
def submitScan (c : Client) (scan : ScanRequest) : Except Failure (Exchange String) :=
  (c.request .post "/videos/scan" (some scan.toText)).map fun request =>
    { request := request
      read := fun r => do
        let r ← r.check "Scan"
        let s ← r.decode Submission.decoder
        return s.jobId }

/-- The failure of a call on a job that the server does not know. -/
def unknownJob (jobId : String) : Failure :=
  ⟨.jobNotFound, jobId⟩

/-- Asks for the status of a job. -/
def jobStatus (c : Client) (jobId : String) : Except Failure (Exchange JobSnapshot) :=
  (c.request .get s!"/jobs/{jobId}" none).map fun request =>
    { request := request
      read := fun r =>
        if r.status = 404 then .error (unknownJob jobId)
        else do
          let r ← r.check "Job status"
          r.decode JobSnapshot.decoder }

/-- Asks the server to stop a job. -/
def cancelJob (c : Client) (jobId : String) : Except Failure (Exchange Unit) :=
  (c.request .post s!"/jobs/{jobId}/cancel" none).map fun request =>
    { request := request
      read := fun r =>
        if r.status = 404 then .error (unknownJob jobId)
        else (r.check "Cancel").map fun _ => () }

/-- Reads the answer to a preview. -/
def previewDecoder : Decoder String :=
  Record.decoder
    { name := "PreviewResponse"
      fields := [.of "filter_string" true .text fun v _ => v]
      blank := "" }

/-- The document that asks for a preview. -/
def previewBody (effectType : String) (parameters : Value) : String :=
  (Value.object [("effect_type", .text effectType), ("parameters", parameters)]).compactText

/-- Asks for the filter of an effect. -/
def previewEffect (c : Client) (effectType : String) (parameters : Value) :
    Except Failure (Exchange String) :=
  (c.request .post "/effects/preview" (some (previewBody effectType parameters))).map
    fun request =>
      { request := request
        read := fun r => do
          let r ← r.check "Preview"
          r.decode previewDecoder }

/-- Asks whether the backend is ready. Refusals have a report as well. -/
def readiness (c : Client) : Except Failure (Exchange Health) :=
  (Http.request .get (c.baseUrl ++ "/health/ready") none).map fun request =>
    { request := request
      read := fun r => (r.decode HealthReport.decoder).map HealthReport.health }

/-- The health of a backend by the result of asking for it: without a report it is bad. -/
def healthOf (result : Except Failure Health) : Health :=
  result.toOption.getD .unhealthy

/-! ## Calls that look at their arguments -/

namespace Checked

/-- Refuses a blank argument. -/
def refuseBlank (what s : String) : Except Failure Unit :=
  if Text.isBlankText s then .error ⟨.invalidData, s!"{what} must not be empty"⟩ else .ok ()

/-- Submits a scan of a path without the blanks around it. -/
def submitScan (c : Client) (scan : ScanRequest) : Except Failure (Exchange String) := do
  refuseBlank "Scan path" scan.path
  c.submitScan { scan with path := Text.trim scan.path }

/-- Asks for the status of a job. -/
def jobStatus (c : Client) (jobId : String) : Except Failure (Exchange JobSnapshot) := do
  refuseBlank "Job id" jobId
  c.jobStatus jobId

/-- Asks the server to stop a job. -/
def cancelJob (c : Client) (jobId : String) : Except Failure (Exchange Unit) := do
  refuseBlank "Job id" jobId
  c.cancelJob jobId

/-- Asks for the filter of an effect. -/
def previewEffect (c : Client) (effectType : String) (parameters : Value) :
    Except Failure (Exchange String) := do
  refuseBlank "Effect type" effectType
  if !parameters.isObject then
    .error ⟨.invalidData, "Effect parameters must be a JSON object"⟩
  c.previewEffect (Text.trim effectType) parameters

end Checked

end Client

end BackendMonitor
