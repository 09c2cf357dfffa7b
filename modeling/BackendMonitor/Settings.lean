import BackendMonitor.Failure
import BackendMonitor.Text.Blank

/-!
# Settings

The settings of a client. Each has a default, so a document may give any part of them, or nothing
at all. `Settings.problem?` finds what would make a timer spin or never fire. Settings without a
problem are accepted by everything that is built from them, but for an origin of nothing but slashes.
-/

namespace BackendMonitor

/-- How the realtime connection is opened again after a loss. -/
structure ReconnectSettings where
  /-- The delay before the first new attempt. -/
  baseDelayMs : UInt64 := 1000
  /-- The greatest delay before any attempt. -/
  maxDelayMs : UInt64 := 30000
  /-- How long one attempt may take. -/
  connectTimeoutMs : UInt64 := 10000
deriving DecidableEq, Repr, Inhabited

/-- How the status of a job is polled. -/
structure PollSettings where
  intervalMs : UInt64 := 1000
  /-- Give up after so many failed polls in a row; without it, never. -/
  maxConsecutiveFailures : Option UInt32 := none
deriving DecidableEq, Repr, Inhabited

/-- How bursts of input are held back. -/
structure DebounceSettings where
  windowMs : UInt64 := 300
deriving DecidableEq, Repr, Inhabited

/-- The settings of a client. -/
structure Settings where
  /-- The origin of the REST interface. -/
  apiBaseUrl : String := "http://localhost:8000"
  /-- The address of the realtime connection. -/
  wsUrl : String := "ws://localhost:8000/ws"
  requestTimeoutMs : UInt64 := 10000
  reconnect : ReconnectSettings := {}
  poll : PollSettings := {}
  debounce : DebounceSettings := {}
deriving DecidableEq, Repr, Inhabited

namespace Settings

/-- What can be wrong with settings. -/
inductive Problem where
  | zeroBaseDelay
  | maxDelayBelowBase (max base : UInt64)
  | zeroConnectTimeout
  | zeroPollInterval
  | blankUrl
deriving DecidableEq, Repr

/-- The wording of a problem. -/
def Problem.message : Problem → String
  | .zeroBaseDelay => "reconnect.base_delay_ms must be positive"
  | .maxDelayBelowBase max base =>
    s!"reconnect.max_delay_ms ({max}) is below base_delay_ms ({base})"
  | .zeroConnectTimeout => "reconnect.connect_timeout_ms must be positive"
  | .zeroPollInterval => "poll.interval_ms must be positive"
  | .blankUrl => "endpoint URLs must not be empty"

/-- The first problem of settings. -/
def problem? (s : Settings) : Option Problem :=
  if s.reconnect.baseDelayMs = 0 then some .zeroBaseDelay
  else if s.reconnect.maxDelayMs < s.reconnect.baseDelayMs then
    some (.maxDelayBelowBase s.reconnect.maxDelayMs s.reconnect.baseDelayMs)
  else if s.reconnect.connectTimeoutMs = 0 then some .zeroConnectTimeout
  else if s.poll.intervalMs = 0 then some .zeroPollInterval
  else if Text.isBlankText s.apiBaseUrl || Text.isBlankText s.wsUrl then some .blankUrl
  else none

/-- Accepts settings that have no problem. -/
def validate (s : Settings) : Except Failure Settings :=
  match s.problem? with
  | some p => .error ⟨.invalidConfig, p.message⟩
  | none => .ok s

end Settings

end BackendMonitor
