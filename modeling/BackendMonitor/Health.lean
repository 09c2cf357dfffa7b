import BackendMonitor.Json.Decoder
import BackendMonitor.Json.Printer

/-!
# Health

Whether the backend is ready.
-/

namespace BackendMonitor

open Json

/-- Whether the backend is ready. -/
inductive Health where
  | healthy
  | degraded
  | unhealthy
deriving DecidableEq, Repr, Inhabited

/-- The name of a state of health. -/
def Health.name : Health → String
  | .healthy => "healthy"
  | .degraded => "degraded"
  | .unhealthy => "unhealthy"

/-- The server's report on its readiness. -/
structure HealthReport where
  status : String
  /-- An object with a member for each check. -/
  checks : Value := .object []
deriving Repr, Inhabited

namespace HealthReport

/-- The fields of a health report. -/
def record : Record HealthReport where
  name := "HealthResponse"
  fields :=
    [ .of "status" true .text fun v r => { r with status := v },
      .of "checks" false .object fun v r => { r with checks := v } ]
  blank := { status := "" }

/-- Reads a health report. -/
def decoder : Decoder HealthReport :=
  record.decoder

/-- What a report says; any status that is not known is a bad one. -/
def health (r : HealthReport) : Health :=
  if r.status = "ok" then .healthy
  else if r.status = "degraded" then .degraded
  else .unhealthy

end HealthReport

end BackendMonitor
