import BackendMonitor.Connection.Backoff
import BackendMonitor.Connection.Socket
import BackendMonitor.Connection.State
import BackendMonitor.Watched

/-!
# Connections

A connection keeps one socket open to one address. Its task makes an attempt to open it, carries
frames both ways as long as it is open, and after a failure or a loss waits for a time that grows
with every failure in a row before it makes the next attempt.

* `Connection.connect`, `Connection.send`, `Connection.dispose`, `Connection.drop` are the calls of
  the owner, each one step;
* `Connection.notice` is the arrival of news from the network, which the task takes up at a later
  turn;
* `Connection.turn` is one step of the task. What comes first at one instant is fixed: the end of
  the connection, a frame of the owner, and last an event of the socket.
-/

namespace BackendMonitor

/-- A message as observers see it. -/
structure InboundMessage where
  /-- The number of the message, counted over all sockets. -/
  seq : Nat
  payload : String
deriving DecidableEq, Repr

/-- An open socket. -/
structure OpenSocket where
  /-- Sockets are numbered from one, in the order in which they were opened. -/
  number : Nat
  /-- The events that the task has not taken, oldest first. -/
  inbox : List SocketEvent := []
deriving DecidableEq, Repr

/-- What the task asks of the network. -/
inductive Connection.Call where
  | attempt (url : String)
  | write (socket : Nat) (frame : String)
  | close (socket : Nat)
deriving DecidableEq, Repr

/-- What the network has to report. -/
inductive Connection.News where
  /-- The attempt was answered; without a failure the socket is open. -/
  | answered (failure : Option Failure)
  /-- The write is over, well or not. -/
  | written
  /-- Closing the socket is over. -/
  | closed
  /-- An event of the open socket. -/
  | event (e : SocketEvent)

/-- How far the task of a connection has come. -/
inductive Connection.Task where
  /-- There is no task yet. -/
  | unstarted
  /-- The task has not taken its first turn. -/
  | starting (url : String)
  /-- An attempt is under way until a deadline; its answer, once it is there. -/
  | opening (url : String) (deadline : Nat) (answer : Option (Option Failure))
  /-- The socket is open, and the task waits for frames and events. -/
  | pumping (url : String) (socket : OpenSocket)
  /-- A write to the socket is under way, or over. -/
  | writing (url : String) (socket : OpenSocket) (finished : Bool)
  /-- The task waits until it makes the next attempt. -/
  | waiting (url : String) (next : Nat)
  /-- The task is closing the socket, or has closed it. -/
  | closing (socket : OpenSocket) (finished : Bool)
  | ended
deriving DecidableEq, Repr

namespace Connection.Task

/-- Whether a task runs, or is about to. -/
def isRunning : Task → Bool
  | .unstarted | .ended => false
  | _ => true

/-- The socket that the task holds. -/
def socket? : Task → Option OpenSocket
  | .pumping _ s | .writing _ s _ | .closing s _ => some s
  | _ => none

end Connection.Task

/-- A connection. -/
structure Connection where
  policy : ReconnectPolicy
  state : Watched ConnectionState := ⟨.connecting, []⟩
  latest : Watched (Option InboundMessage) := ⟨none, []⟩
  retry : Retry := {}
  /-- The number of messages that came so far. -/
  received : Nat := 0
  /-- The number of sockets that were opened so far. -/
  opened : Nat := 0
  disposed : Bool := false
  /-- Whether the owner still holds the connection. -/
  held : Bool := true
  /-- Accepted frames that the task has not taken, oldest first. -/
  queue : List String := []
  task : Connection.Task := .unstarted
  /-- What the task asked of the network and when, newest first. -/
  calls : List (Nat × Connection.Call) := []
  /-- The states that the task went over to and that must not follow, newest first. -/
  ignored : List ConnectionState := []
deriving Repr

namespace Connection

/-- Publishes the next state, unless the connection is disposed or the state stays the same. A state
that must not follow is ignored. -/
def become (next : ConnectionState) (c : Connection) : Connection :=
  if c.disposed || c.state.value == next then c
  else if !c.state.value.canBecome next then { c with ignored := next :: c.ignored }
  else { c with state := c.state.publish next }

/-- Records what the task asks of the network. -/
def call (now : Nat) (a : Call) (c : Connection) : Connection :=
  { c with calls := (now, a) :: c.calls }

/-- Goes on with the task. -/
def proceed (task : Task) (c : Connection) : Connection :=
  { c with task := task }

/-! ## The owner -/

/-- Starts to connect. That is possible once. -/
def connect (url : String) (c : Connection) : Connection :=
  if c.disposed then c
  else
    match c.task with
    | .unstarted => c.proceed (.starting url)
    | _ => c

/-- Accepts a frame while connected; the result says whether it did. -/
def send (frame : String) (c : Connection) : Connection × Bool :=
  if c.disposed || !c.state.value.isConnected then (c, false)
  else ({ c with queue := c.queue ++ [frame] }, true)

/-- Tears the connection down. -/
def dispose (c : Connection) : Connection :=
  if c.disposed then c
  else { c with disposed := true, state := c.state.publish .disconnected }

/-- Lets go of the connection, which tears it down. -/
def drop (c : Connection) : Connection :=
  { c.dispose with held := false }

/-! ## The network -/

/-- An event arrives at the socket that the task holds. -/
def Task.receive (e : SocketEvent) : Task → Task
  | .pumping url s => .pumping url { s with inbox := s.inbox ++ [e] }
  | .writing url s finished => .writing url { s with inbox := s.inbox ++ [e] } finished
  | .closing s finished => .closing { s with inbox := s.inbox ++ [e] } finished
  | t => t

/-- The arrival of news. Without anyone to wait for them they are lost. -/
def notice (n : News) (c : Connection) : Connection :=
  match n, c.task with
  | .answered failure, .opening url deadline none =>
    c.proceed (.opening url deadline (some failure))
  | .written, .writing url s _ => c.proceed (.writing url s true)
  | .closed, .closing s _ => c.proceed (.closing s true)
  | .event e, t => c.proceed (Task.receive e t)
  | _, _ => c

/-! ## The task -/

/-- Makes an attempt. -/
def attempt (now : Nat) (url : String) (c : Connection) : Connection :=
  (c.call now (.attempt url)).proceed
    (.opening url (now + c.policy.connectTimeoutMs.toNat) none)

/-- The socket is open. Frames that were meant for an earlier one are given up. -/
def onOpened (url : String) (c : Connection) : Connection :=
  { c with retry := c.retry.reset, queue := [], opened := c.opened + 1 }.become .connected
    |>.proceed (.pumping url { number := c.opened + 1 })

/-- The attempt failed, or the socket was lost: the next attempt follows after the delay. -/
def onLost (now : Nat) (url : String) (c : Connection) : Connection :=
  { c with retry := c.retry.fail }.become .reconnecting
    |>.proceed (.waiting url (now + c.policy.delay c.retry.attempt))

/-- A message came. -/
def deliver (payload : String) (c : Connection) : Connection :=
  let c := { c with received := c.received + 1 }
  if c.disposed then c
  else { c with latest := c.latest.publish (some ⟨c.received, payload⟩) }

/-- An event of the socket. Errors are not acted on. -/
def onEvent (now : Nat) (url : String) (s : OpenSocket) (c : Connection) :
    SocketEvent → Connection
  | .message payload => (c.deliver payload).proceed (.pumping url s)
  | .error _ => c.proceed (.pumping url s)
  | .closed => c.onLost now url

/-- One turn of a task that holds an open socket. -/
def pump (now : Nat) (url : String) (s : OpenSocket) (c : Connection) : Option Connection :=
  match c.queue, s.inbox with
  | frame :: queue, _ =>
    some (({ c with queue := queue }.call now (.write s.number frame)).proceed
      (.writing url s false))
  | [], e :: inbox => some (c.onEvent now url { s with inbox := inbox } e)
  | [], [] => none

/-- Closes the socket. -/
def close (now : Nat) (s : OpenSocket) (c : Connection) : Connection :=
  (c.call now (.close s.number)).proceed (.closing s false)

/-- One turn of the task, or `none` if it has nothing to do. A write and the closing of a socket
are waited for, come what may. -/
def turn (now : Nat) (c : Connection) : Option Connection :=
  match c.task with
  | .unstarted | .ended => none
  | .starting url => some (if c.disposed then c.proceed .ended else c.attempt now url)
  | .opening url deadline answer =>
    if c.disposed then some (c.proceed .ended)
    else
      match answer with
      | some none => some (c.onOpened url)
      | some (some _) => some (c.onLost now url)
      | none => if deadline ≤ now then some (c.onLost now url) else none
  | .pumping url s => if c.disposed then some (c.close now s) else c.pump now url s
  | .writing url s finished => if finished then some (c.proceed (.pumping url s)) else none
  | .waiting url next =>
    if c.disposed then some (c.proceed .ended)
    else if next ≤ now then some (c.attempt now url) else none
  | .closing _ finished => if finished then some (c.proceed .ended) else none

/-- When the task has something to do without news. -/
def due? (c : Connection) : Option Nat :=
  match c.task with
  | .opening _ deadline none => some deadline
  | .waiting _ next => some next
  | _ => none

/-- Whether nobody is left who could tell the observers anything. -/
def closed (c : Connection) : Bool :=
  !c.held && !c.task.isRunning

end Connection

end BackendMonitor
