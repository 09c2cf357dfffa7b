import BackendMonitor.Text.Utf8

/-!
# Sockets

What an open socket reports. The frames of a stream become events: frames of text, and binary ones
that are text as well, are messages; a failure of the stream is an error, after which the socket is
closed for good.
-/

namespace BackendMonitor

/-- What an open socket reports. -/
inductive SocketEvent where
  | message (payload : String)
  /-- Trouble on the way. The end of the socket is reported by itself. -/
  | error (reason : String)
  /-- The socket is gone, in good order or not. -/
  | closed
deriving DecidableEq, Repr, Inhabited

/-- What a stream of frames brings. -/
inductive StreamItem where
  | text (payload : String)
  | binary (bytes : List UInt8)
  | ping (bytes : List UInt8)
  | pong (bytes : List UInt8)
  | close
  | failure (reason : String)
deriving DecidableEq, Repr

/-- The event that an item makes. Binary items that are no text make none, nor do those that only
keep the stream alive. -/
def StreamItem.event? : StreamItem → Option SocketEvent
  | .text payload => some (.message payload)
  | .binary bytes => (Text.Utf8.text? bytes).map .message
  | .ping _ | .pong _ => none
  | .close => some .closed
  | .failure reason => some (.error reason)

/-- The events that items make where a failure can only be the last of them. -/
def StreamItem.events (items : List StreamItem) : List SocketEvent :=
  items.flatMap fun i =>
    match i with
    | .failure reason => [.error reason, .closed]
    | i => i.event?.toList

/-- An open stream. It is over when there are no items left. -/
structure SocketStream where
  items : List StreamItem
  /-- Whether an item was a failure. -/
  failed : Bool := false
deriving DecidableEq, Repr

namespace SocketStream

/-- The next event among items, and the stream after it. -/
def firstEvent : List StreamItem → SocketEvent × SocketStream
  | [] => (.closed, { items := [] })
  | .failure reason :: rest => (.error reason, { items := rest, failed := true })
  | item :: rest =>
    match item.event? with
    | some e => (e, { items := rest })
    | none => firstEvent rest

/-- The next event of a stream, and the stream after it. -/
def next (s : SocketStream) : SocketEvent × SocketStream :=
  if s.failed then (.closed, s) else firstEvent s.items

/-- The first events of a stream, so many of them. -/
def events : Nat → SocketStream → List SocketEvent
  | 0, _ => []
  | n + 1, s => s.next.1 :: events n s.next.2

end SocketStream

end BackendMonitor
