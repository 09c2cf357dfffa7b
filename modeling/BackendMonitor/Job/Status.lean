import BackendMonitor.Json.Decoder

/-!
# Job statuses

How far the server has come with a job. Statuses go forward only: pending, running, and one of
three ways to end. Servers use more spellings than the schema has; `reported?` knows them all.
-/

namespace BackendMonitor

/-- The statuses of a job. -/
inductive JobStatus where
  | pending
  | running
  | completed
  | failed
  | cancelled
deriving DecidableEq, Repr, Inhabited

namespace JobStatus

/-- Whether a job with this status is over. -/
def isTerminal : JobStatus → Bool
  | .completed | .failed | .cancelled => true
  | .pending | .running => false

/-- The position of a status on the way forward. -/
def rank : JobStatus → Nat
  | .pending => 0
  | .running => 1
  | .completed | .failed | .cancelled => 2

/-- The name of a status in the schema. -/
def name : JobStatus → String
  | .pending => "pending"
  | .running => "running"
  | .completed => "completed"
  | .failed => "failed"
  | .cancelled => "cancelled"

/-- The names of the statuses. -/
def named : List (String × JobStatus) :=
  [.pending, .running, .completed, .failed, .cancelled].map fun s => (s.name, s)

/-- Reads a status by its name in the schema. -/
def decoder : Json.Decoder JobStatus :=
  .oneOf named

/-- The reason that a reported status gives for a failure. -/
def timedOut : String := "job timed out"

/-- The spellings in reports, in lower case: the status that each means, and the reason that it
gives for a failure, if any. -/
def spellings : List (String × JobStatus × Option String) :=
  [ ("pending", .pending, none),
    ("queued", .pending, none),
    ("running", .running, none),
    ("complete", .completed, none),
    ("completed", .completed, none),
    ("failed", .failed, none),
    ("timeout", .failed, some timedOut),
    ("cancelled", .cancelled, none),
    ("canceled", .cancelled, none) ]

/-- A letter of ASCII in lower case. -/
def lowerAscii (c : Char) : Char :=
  if 'A' ≤ c && c ≤ 'Z' then Char.ofNat (c.toNat + 32) else c

/-- The status that a report spells, in any case of the letters of ASCII, with the reason that it
gives for a failure. -/
def reported? (raw : String) : Option (JobStatus × Option String) :=
  (spellings.find? (·.1 == String.ofList (raw.toList.map lowerAscii))).map (·.2)

end JobStatus

end BackendMonitor
