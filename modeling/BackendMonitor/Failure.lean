import BackendMonitor.Json.Fault

/-!
# Failures

Why an operation on the backend did not succeed. The kind decides whether it makes sense to try
again, and with the detail it makes the wording.
-/

namespace BackendMonitor

/-- The kinds of failures. -/
inductive Failure.Kind where
  /-- The server answered that it could not do what was asked. -/
  | api
  /-- No complete answer came. -/
  | network
  | webSocket
  | invalidData
  | jobNotFound
  | invalidConfig
  | unknown
deriving DecidableEq, Repr

/-- Why an operation did not succeed. -/
structure Failure where
  kind : Failure.Kind
  detail : String
deriving DecidableEq, Repr

namespace Failure

/-- The words for a kind. -/
def Kind.label : Kind → String
  | .api => "API request failed"
  | .network => "Network error"
  | .webSocket => "WebSocket error"
  | .invalidData => "Invalid data"
  | .jobNotFound => "Job not found"
  | .invalidConfig => "Invalid configuration"
  | .unknown => "Unknown error"

/-- The wording of a failure. -/
def message (f : Failure) : String :=
  s!"{f.kind.label}: {f.detail}"

/-- Whether the same operation may succeed later: trouble with the server or on the way to it
passes, a missing job or a malformed document does not. -/
def isTransient (f : Failure) : Bool :=
  match f.kind with
  | .api | .network | .webSocket => true
  | _ => false

/-- The failure of a document that cannot be read. -/
def ofFault (fault : Json.Fault) : Failure :=
  ⟨.invalidData, fault.message⟩

end Failure

end BackendMonitor
