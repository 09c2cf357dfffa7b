import BackendMonitor.Event

/-!
# The activity log

The latest events, newest first. The log has room for a fixed number of entries, at least one;
every event gets the next number, also when older ones have been dropped.
-/

namespace BackendMonitor

open Json

/-- An entry of the activity log. -/
structure ActivityEntry where
  id : Nat
  type : EventType
  timestamp : Option String
  details : Value
deriving Repr

/-- An entry as a value. -/
def ActivityEntry.toValue (e : ActivityEntry) : Value :=
  .object
    [ ("id", .nat e.id),
      ("event_type", .text e.type.name),
      ("timestamp", .textOrNull e.timestamp),
      ("details", e.details) ]

/-- The latest events, newest first. -/
structure ActivityLog where
  capacity : Nat := 50
  entries : List ActivityEntry := []
  nextId : Nat := 0
deriving Repr, Inhabited

namespace ActivityLog

/-- The entry that an event gets. -/
def entryFor (log : ActivityLog) (e : Event) : ActivityEntry :=
  ⟨log.nextId, e.type, e.timestamp, e.payload⟩

/-- Records an event; the oldest entry is dropped when there is no room for it. -/
def push (log : ActivityLog) (e : Event) : ActivityLog :=
  { log with
    entries := (log.entryFor e :: log.entries).take (max log.capacity 1)
    nextId := log.nextId + 1 }

/-- Records the event in a frame, if there is one. -/
def pushFrame (log : ActivityLog) (frame : String) : ActivityLog × Option ActivityEntry :=
  match Event.ofFrame? frame with
  | some e => (log.push e, some (log.entryFor e))
  | none => (log, none)

/-- The number of entries. -/
def size (log : ActivityLog) : Nat :=
  log.entries.length

end ActivityLog

end BackendMonitor
