import BackendMonitor.Connection
import BackendMonitor.Schedule

/-!
# Rehearsing a connection

A connection under a clock that only moves when told to, with a peer that answers attempts from a
script, and with one observer for each of the two things to watch. After each step the task runs
until it rests, unless the step is a race; then the entry of the step is made.
-/

namespace BackendMonitor.Connection.Rehearsal

/-- How the peer answers an attempt, if ever, and how it behaves if that opens a socket. -/
structure Peer where
  answer : Option (Option Failure) := some none
  delay : Nat := 0
  /-- How long each write takes. -/
  writeDelay : Nat := 0
  /-- How long it takes to close the socket. -/
  closeDelay : Nat := 0

/-- A peer that refuses. -/
def Peer.refusal : Peer :=
  { answer := some (some ⟨.webSocket, "refused"⟩) }

/-- What the owner or the peer does. -/
inductive Action where
  | connect (url : String)
  | send (frames : List String)
  | dispose
  | drop
  /-- Disposes of the connection, waits for its task to end, and lets go of it. -/
  | shutdown
  /-- Events arrive at the socket that was opened last. -/
  | events (es : List SocketEvent)
  /-- The peer of that socket goes away. -/
  | vanish
  /-- Writes fail from now on, or no longer do. -/
  | breakWrites (on : Bool)
  | advance (ms : Nat)
  | look

/-- A step of a rehearsal. After a race the task has not run yet. -/
structure Step where
  action : Action
  race : Bool := false

/-- What the owner sees of a connection. -/
structure View where
  retryAttempt : UInt32
  disposed : Bool

/-- A frame that was written. -/
structure Written where
  instant : Nat
  socket : Nat
  frame : String

/-- What is seen after a step. -/
structure Entry where
  now : Nat
  /-- Whether the observer was told of a state since the entry before. -/
  changed : Bool
  /-- Whether the observer was told of a message since the entry before. -/
  messageChanged : Bool
  closed : Bool
  state : ConnectionState
  latest : Option InboundMessage
  /-- The attempts since the entry before: when, and to which address. -/
  attempts : List (Nat × String)
  /-- The frames written since the entry before. -/
  written : List Written
  /-- The sockets closed since the entry before. -/
  socketsClosed : List Nat
  /-- What the owner sees, as long as there is one. -/
  view : Option View
  /-- Which of the frames or events of the step were accepted. -/
  accepted : List Bool

end BackendMonitor.Connection.Rehearsal

namespace BackendMonitor.Connection

/-- A connection under a clock, with a peer and observers. -/
structure Rehearsal where
  connection : Connection
  /-- How the peer answers the next attempts. -/
  script : List Rehearsal.Peer
  now : Nat := 0
  /-- The peer of the last attempt. -/
  peer : Rehearsal.Peer := .refusal
  /-- The news on their way, and when they arrive. -/
  arriving : Option (Nat × News) := none
  /-- The number of the last socket whose peer went away. -/
  vanished : Nat := 0
  writesFail : Bool := false
  /-- What has been written and closed since the last entry, newest first. -/
  written : List Rehearsal.Written := []
  socketsClosed : List Nat := []
  /-- How many states and messages the observers were told of when they last looked. -/
  noted : Nat := 0
  messagesNoted : Nat := 0
  /-- How many calls earlier entries have shown. -/
  shown : Nat := 0

namespace Rehearsal

/-- Lets the peer take a call. -/
def receive (now : Nat) (r : Rehearsal) : Call → Rehearsal
  | .attempt _ =>
    let peer := r.script.headD .refusal
    { r with
      peer := peer
      script := r.script.tail
      arriving := peer.answer.map fun a => (now + peer.delay, .answered a) }
  | .write _ _ => { r with arriving := some (now + r.peer.writeDelay, .written) }
  | .close _ => { r with arriving := some (now + r.peer.closeDelay, .closed) }

/-- Keeps a record of what is done, when the news of it arrive. -/
def record (now : Nat) (n : News) (r : Rehearsal) : Rehearsal :=
  match n, r.connection.calls.head? with
  | .written, some (_, .write socket frame) =>
    if r.writesFail then r else { r with written := ⟨now, socket, frame⟩ :: r.written }
  | .closed, some (_, .close socket) => { r with socketsClosed := socket :: r.socketsClosed }
  | _, _ => r

/-- Hands over the news that have arrived. -/
def deliver (now : Nat) (r : Rehearsal) : Rehearsal :=
  match r.arriving with
  | some (instant, n) =>
    if instant ≤ now then
      { r.record now n with connection := r.connection.notice n, arriving := none }
    else r
  | none => r

/-- One turn of the task, at which the peer takes the calls that it makes. -/
def turn (now : Nat) (r : Rehearsal) : Option Rehearsal :=
  let r := r.deliver now
  (r.connection.turn now).map fun c =>
    let made := c.calls.take (c.calls.length - r.connection.calls.length)
    made.reverse.foldl (fun r a => r.receive now a.2) { r with connection := c }

/-- A bound on the number of turns that the task can take at one instant: two for each frame, one
for each event, and two for each attempt; with a delay there is one attempt at most, and without
one the delay of the thirty-third is the longest there is. -/
def turnBound (c : Connection) : Nat :=
  2 * c.queue.length + (c.task.socket?.map fun s => s.inbox.length).getD 0 + 2 * 34 + 4

/-- Lets the task run until it rests. -/
def rest (now : Nat) (r : Rehearsal) : Rehearsal :=
  { (Schedule.runTurns (turn now) (turnBound r.connection) r).deliver now with now := now }

/-- When something happens by itself. -/
def due? (r : Rehearsal) : Option Nat :=
  (r.connection.due?.toList ++ (r.arriving.map (·.1)).toList).min?

/-- Lets time pass. -/
def advance (ms : Nat) (r : Rehearsal) : Rehearsal :=
  Schedule.passTime due? rest (r.now + ms) ms r.now (r.rest r.now)

/-- Goes from instant to instant until the task has ended, so many instants at most. -/
def awaitEnd : Nat → Rehearsal → Rehearsal
  | 0, r => r
  | limit + 1, r =>
    if r.connection.task.isRunning then
      match r.due? with
      | some instant => awaitEnd limit (r.rest (max r.now instant))
      | none => r
    else r

/-- Whether events can arrive at the socket that was opened last. -/
def reachable (r : Rehearsal) : Bool :=
  r.connection.task.socket?.any fun s => r.vanished < s.number

/-- What an action does before the task runs, and which of its frames or events are accepted.
Without an owner only the peer acts, and time can pass. -/
def act (action : Action) (r : Rehearsal) : Rehearsal × List Bool :=
  let c := r.connection
  match action with
  | .advance ms => (r.advance ms, [])
  | .look => (r, [])
  | .breakWrites on => ({ r with writesFail := on }, [])
  | .events es =>
    if r.reachable then
      ({ r with connection := es.foldl (fun c e => c.notice (.event e)) c }, es.map fun _ => true)
    else (r, es.map fun _ => false)
  | .vanish =>
    if r.reachable then
      ({ r with connection := c.notice (.event .closed), vanished := c.opened }, [])
    else (r, [])
  | action =>
    if !c.held then (r, [])
    else
      match action with
      | .connect url => ({ r with connection := c.connect url }, [])
      | .send frames =>
        let (c, accepted) := frames.foldl
          (fun (c, accepted) frame => ((c.send frame).1, accepted ++ [(c.send frame).2]))
          (c, ([] : List Bool))
        ({ r with connection := c }, accepted)
      | .dispose => ({ r with connection := c.dispose }, [])
      | .drop => ({ r with connection := c.drop }, [])
      | .shutdown =>
        let r := awaitEnd 2 ({ r with connection := c.dispose }.rest r.now)
        ({ r with connection := r.connection.drop }, [])
      | _ => (r, [])

/-- Makes an entry; the observers have looked then. -/
def entry (accepted : List Bool) (r : Rehearsal) : Rehearsal × Entry :=
  let c := r.connection
  let calls := (c.calls.take (c.calls.length - r.shown)).reverse
  ( { r with
      noted := c.state.count
      messagesNoted := c.latest.count
      shown := c.calls.length
      written := []
      socketsClosed := [] },
    { now := r.now
      changed := !c.closed && c.state.count != r.noted
      messageChanged := !c.closed && c.latest.count != r.messagesNoted
      closed := c.closed
      state := c.state.value
      latest := c.latest.value
      attempts := calls.filterMap fun
        | (t, .attempt url) => some (t, url)
        | _ => none
      written := r.written.reverse
      socketsClosed := r.socketsClosed.reverse
      view := if c.held then some ⟨c.retry.attempt, c.disposed⟩ else none
      accepted := accepted } )

/-- One step, and its entry. -/
def step (s : Step) (r : Rehearsal) : Rehearsal × Entry :=
  let (r, accepted) := r.act s.action
  (if s.race then r else r.rest r.now).entry accepted

/-- All steps in order. -/
def run (r : Rehearsal) : List Step → List Entry
  | [] => []
  | s :: rest => (r.step s).2 :: run (r.step s).1 rest

end Rehearsal

end BackendMonitor.Connection
