import BackendMonitor.Connection
import BackendMonitor.Event.Activity
import BackendMonitor.Settings

/-!
# Watching

The program that follows the realtime connection. Every state of the connection and every event is
logged; frames that are no events are passed over.

* `Watch.start` starts to connect;
* `Watch.look` logs what has been published since the last look;
* `Watch.finish` tears the connection down after an interrupt.
-/

namespace BackendMonitor

open Json

/-- A program that follows the realtime connection. -/
structure Watch where
  connection : Connection
  activity : ActivityLog := {}
  /-- How many states and messages have been looked at. -/
  noted : Nat := 0
  messagesNoted : Nat := 0
  /-- What was logged, newest first. -/
  log : List String := []

namespace Watch

/-- Starts to connect. -/
def start (s : Settings) : Watch :=
  let connection : Connection := { policy := .ofSettings s.reconnect }
  { connection := connection.connect s.wsUrl }

/-- Logs a line. -/
def note (line : String) (w : Watch) : Watch :=
  { w with log := s!"INFO {line}" :: w.log }

/-- The line for the state of a connection, which tells failed attempts if there were any. -/
def stateLine (c : Connection) : String :=
  if c.retry.attempt = 0 then c.state.value.label
  else s!"{c.state.value.label} (attempt {c.retry.attempt})"

/-- The line for an entry of the activity log. -/
def entryLine (e : ActivityEntry) : String :=
  s!"{e.type.label}: {e.details.compactText} id={e.id}"

/-- Logs the state, if one has been published since the last look. -/
def lookAtState (w : Watch) : Watch :=
  if w.noted < w.connection.state.count then
    { w.note (stateLine w.connection) with noted := w.connection.state.count }
  else w

/-- Logs the event in the last message, if one has come since the last look. -/
def lookAtMessage (w : Watch) : Watch :=
  if w.messagesNoted < w.connection.latest.count then
    let seen := { w with messagesNoted := w.connection.latest.count }
    match w.connection.latest.value with
    | none => seen
    | some message =>
      match w.activity.pushFrame message.payload with
      | (activity, some entry) => { seen.note (entryLine entry) with activity := activity }
      | (_, none) => seen
  else w

/-- Logs what has been published since the last look. -/
def look (w : Watch) : Watch :=
  w.lookAtState.lookAtMessage

/-- One turn of the connection. -/
def turn (now : Nat) (w : Watch) : Option Watch :=
  (w.connection.turn now).map fun c => { w with connection := c }

/-- An interrupt: the connection is torn down. -/
def interrupt (w : Watch) : Watch :=
  let w := w.note "Interrupted, closing connection"
  { w with connection := w.connection.dispose }

/-- What is logged when the connection has been torn down. -/
def finish (w : Watch) : Watch :=
  w.note s!"Saw {w.activity.size} events"

end Watch

end BackendMonitor
