import BackendMonitor.Json.Decoder
import BackendMonitor.Json.Printer

/-!
# Events

The messages that the backend broadcasts over the realtime connection. A frame that is no event is
left to others.
-/

namespace BackendMonitor

open Json

/-- The types of events. A type that is not known keeps its name. -/
inductive EventType where
  | healthStatus
  | scanStarted
  | scanCompleted
  | projectCreated
  | heartbeat
  | other (name : String)
deriving DecidableEq, Repr, Inhabited

namespace EventType

/-- The name of an event type. -/
def name : EventType → String
  | .healthStatus => "health_status"
  | .scanStarted => "scan_started"
  | .scanCompleted => "scan_completed"
  | .projectCreated => "project_created"
  | .heartbeat => "heartbeat"
  | .other s => s

/-- The event types with names of their own. -/
def known : List EventType :=
  [.healthStatus, .scanStarted, .scanCompleted, .projectCreated, .heartbeat]

/-- The event type with a name. -/
def ofName (s : String) : EventType :=
  (known.find? (·.name == s)).getD (.other s)

/-- Whether a type is none of the known ones. -/
def isOther : EventType → Bool
  | .other _ => true
  | _ => false

/-- The name with blanks in place of underscores. -/
def label (t : EventType) : String :=
  String.ofList (t.name.toList.map fun c => if c = '_' then ' ' else c)

end EventType

/-- An event. -/
structure Event where
  type : EventType
  payload : Value := .null
  correlationId : Option String := none
  timestamp : Option String := none
deriving Repr

namespace Event

/-- The fields of an event whose type is what `typeOf` makes of a name. -/
def recordWith (typeOf : String → EventType) : Record Event where
  name := "ServerEvent"
  fields :=
    [ .of "type" true .text fun v e => { e with type := typeOf v },
      .of "payload" false .any fun v e => { e with payload := v },
      .of "correlation_id" false (.optional .text) fun v e => { e with correlationId := v },
      .of "timestamp" false (.optional .text) fun v e => { e with timestamp := v } ]
  blank := { type := .other "" }

/-- The fields of an event. -/
def record : Record Event :=
  recordWith .ofName

/-- The event in a frame, if there is one. -/
def ofFrame? (frame : String) : Option Event :=
  (record.decoder.ofText frame).toOption

/-- An event as a value. -/
def toValue (e : Event) : Value :=
  .object
    [ ("type", .text e.type.name),
      ("payload", e.payload),
      ("correlation_id", .textOrNull e.correlationId),
      ("timestamp", .textOrNull e.timestamp) ]

/-- An event as a frame. -/
def toFrame (e : Event) : String :=
  e.toValue.compactText

end Event

end BackendMonitor
