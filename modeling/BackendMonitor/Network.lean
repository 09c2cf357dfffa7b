import BackendMonitor.Connection.Frame
import BackendMonitor.Connection.Handshake
import Std.Async.DNS
import Std.Async.TCP

/-!
# The network

Carries out exchanges and opens sockets, over streams that are not encrypted: an address that asks
for encryption is not reached.

* `Network.carryOut` carries an exchange out in the time that it may take;
* `Network.openLink`, `Network.Link.receive`, `Network.Link.write` and `Network.Link.close` are the
  life of a socket.
-/

namespace BackendMonitor.Network

open Std.Async

/-- A stream of bytes to a server. -/
abbrev Stream := TCP.Socket.Client

/-- Waits for what a task comes to, up to an instant of the clock and unless the one who waits is
cancelled. A task that fails comes to nothing. -/
partial def await {α : Type} (deadline : Nat) (t : AsyncTask α) : IO (Option α) := do
  if ← IO.hasFinished t then return (Task.get t).toOption
  if deadline ≤ (← IO.monoMsNow) || (← IO.checkCanceled) then return none
  IO.sleep 1
  await deadline t

/-- Opens a stream to a host. Its addresses are tried in their order. -/
def reach (deadline : Nat) (host : String) (port : Nat) : IO (Option Stream) := do
  let addresses ← await deadline (← (DNS.getAddrInfo host (toString port)).toIO)
  for address in addresses.getD #[] do
    let stream ← TCP.Socket.Client.mk
    let destination := match address with
      | .v4 a => .v4 ⟨a, UInt16.ofNat port⟩
      | .v6 a => .v6 ⟨a, UInt16.ofNat port⟩
    if (← await deadline (← (stream.connect destination).toIO)).isSome then return some stream
  return none

/-- Sends bytes; the result says whether that went well. -/
def send (deadline : Nat) (stream : Stream) (bytes : List UInt8) : IO Bool := do
  return (← await deadline (← (stream.send ⟨bytes.toArray⟩).toIO)).isSome

/-- The next bytes of a stream, or what became of it. -/
def read (deadline : Nat) (stream : Stream) : IO (Except Http.Supply (List UInt8)) := do
  match ← await deadline (← (stream.recv? 65536).toIO) with
  | none => return .error .lost
  | some none => return .error .ended
  | some (some bytes) => return .ok bytes.toList

/-! ## Exchanges -/

/-- Reads a response. -/
partial def response (deadline : Nat) (stream : Stream) (soFar : List UInt8) :
    IO (Option Http.Response) := do
  let (supply, bytes) := match ← read deadline stream with
    | .ok bytes => (.awaited, soFar ++ bytes)
    | .error supply => (supply, soFar)
  match Http.Response.ofBytes supply bytes with
  | .partly => response deadline stream bytes
  | .complete r => return some r
  | .malformed => return none

/-- Sends a request and waits for the response. -/
def exchange (timeoutMs : Nat) (r : Http.Request) : IO (Option Http.Response) := do
  let deadline := (← IO.monoMsNow) + timeoutMs
  try
    if r.url.scheme != "http" then return none
    let some host := r.url.host | return none
    let some stream ← reach deadline (String.ofList host.bareText) (r.url.port.getD 80)
      | return none
    if !(← send deadline stream r.toBytes) then return none
    response deadline stream []
  catch _ => return none

/-- Carries an exchange out. -/
def carryOut {α : Type} (timeoutMs : Nat) (x : Except Failure (Http.Exchange α)) :
    IO (Except Failure α) :=
  match x with
  | .error f => return .error f
  | .ok x => return x.result (← exchange timeoutMs x.request)

/-! ## Sockets -/

/-- An open socket. -/
structure Link where
  stream : Stream
  /-- The message that has not come in full. -/
  assembly : Assembly := {}
  /-- What has arrived of the next frame. -/
  bytes : List UInt8 := []

/-- So many random bytes. -/
def randomBytes (n : Nat) : IO (List UInt8) :=
  (List.range n).mapM fun _ => return UInt8.ofNat (← IO.rand 0 255)

/-- An instant of the clock after which nothing is waited for. -/
def later : IO Nat :=
  return (← IO.monoMsNow) + 1000000000

/-- Waits for the answer to a key. -/
partial def agreement (deadline : Nat) (stream : Stream) (key : String) (soFar : List UInt8) :
    IO (Option Link) := do
  let .ok bytes ← read deadline stream | return none
  let bytes := soFar ++ bytes
  match Handshake.answer key bytes with
  | .partly => agreement deadline stream key bytes
  | .agreed rest => return some { stream := stream, bytes := rest }
  | .refused => return none

/-- Opens a socket. -/
def openLink (timeoutMs : Nat) (url : String) : IO (Except Failure Link) := do
  let deadline := (← IO.monoMsNow) + timeoutMs
  match Uri.ofText url, SocketAddress.ofText url with
  | .ok uri, .ok address =>
    let failed := .error ⟨.webSocket, s!"{url} cannot be reached"⟩
    try
      if uri.scheme != some "ws" then return failed
      let some stream ← reach deadline address.host address.port | return failed
      let key := Handshake.keyOf (← randomBytes 16)
      if !(← send deadline stream (Handshake.request uri key)) then return failed
      let some link ← agreement deadline stream key [] | return failed
      return .ok link
    catch _ => return failed
  | _, .error f => return .error ⟨.webSocket, f.message⟩
  | .error f, _ => return .error ⟨.webSocket, f.message⟩

namespace Link

/-- Sends a frame under a random mask. -/
def send (l : Link) (f : Frame) : IO Unit := do
  try
    discard <| Network.send (← later) l.stream (f.toBytes (← randomBytes 4))
  catch _ => return ()

/-- Sends a text. -/
def write (l : Link) (text : String) : IO Unit :=
  l.send { opcode := .text, payload := Bytes.ofText text }

/-- Closes the socket. -/
def close (l : Link) : IO Unit :=
  l.send { opcode := .close, payload := [] }

/-- Answers the frames that ask for one. -/
def respond (l : Link) : StreamItem → IO Unit
  | .ping bytes => l.send { opcode := .pong, payload := bytes }
  | .close => l.close
  | _ => return ()

/-- Waits for the next events of the socket. -/
partial def receive (l : Link) : IO (List SocketEvent × Link) := do
  let (items, assembly, bytes) := l.assembly.receive l.bytes
  let l := { l with assembly := assembly, bytes := bytes }
  items.forM l.respond
  let events := StreamItem.events items
  if !events.isEmpty then return (events, l)
  match ← try read (← later) l.stream catch _ => return ([.closed], l) with
  | .ok more => receive { l with bytes := l.bytes ++ more }
  | .error _ => return (StreamItem.events [.failure "the stream broke off"], l)

end Link

end BackendMonitor.Network
