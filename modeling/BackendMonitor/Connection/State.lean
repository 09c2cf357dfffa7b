import BackendMonitor.Json.Decoder

/-!
# Connection states

A connection starts out connecting. It is disconnected only when it is torn down, and stays so.
-/

namespace BackendMonitor

/-- The states of the realtime connection. -/
inductive ConnectionState where
  /-- The first attempt is under way. -/
  | connecting
  | connected
  | reconnecting
  /-- The connection was torn down. -/
  | disconnected
deriving DecidableEq, Repr, Inhabited

namespace ConnectionState

/-- Whether `next` may follow a state. -/
def canBecome : ConnectionState → ConnectionState → Bool
  | .disconnected, _ => false
  | _, .disconnected => true
  | .connecting, .connected | .connecting, .reconnecting => true
  | .connected, .reconnecting => true
  | .reconnecting, .connected | .reconnecting, .reconnecting => true
  | _, _ => false

/-- Whether a state is the connected one. -/
def isConnected (s : ConnectionState) : Bool :=
  s == .connected

/-- A state as it is shown. -/
def label : ConnectionState → String
  | .connecting => "Connecting..."
  | .connected => "Connected"
  | .reconnecting => "Reconnecting..."
  | .disconnected => "Disconnected"

/-- The name of a state in documents. -/
def name : ConnectionState → String
  | .connecting => "connecting"
  | .connected => "connected"
  | .reconnecting => "reconnecting"
  | .disconnected => "disconnected"

/-- The names of the states. -/
def named : List (String × ConnectionState) :=
  [.connecting, .connected, .reconnecting, .disconnected].map fun s => (s.name, s)

/-- Reads a state by its name. -/
def decoder : Json.Decoder ConnectionState :=
  .oneOf named

end ConnectionState

end BackendMonitor
