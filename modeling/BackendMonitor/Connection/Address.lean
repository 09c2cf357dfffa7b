import BackendMonitor.Uri

/-!
# Socket addresses

Where a socket is opened: the host and the port in an address. The port may be left out where the
scheme is the one of sockets.
-/

namespace BackendMonitor

/-- What can be wrong with the address of a socket. -/
inductive SocketAddress.Fault where
  | malformed (fault : Uri.Fault)
  | noHost
  | unsupportedScheme
deriving DecidableEq, Repr

/-- The wording of a fault. -/
def SocketAddress.Fault.message : SocketAddress.Fault → String
  | .malformed fault => s!"HTTP format error: {fault.message}"
  | .noHost => "URL error: No host name in the URL"
  | .unsupportedScheme => "URL error: URL scheme not supported"

/-- Where a socket is opened. -/
structure SocketAddress where
  host : String
  port : Nat
deriving DecidableEq, Repr

namespace SocketAddress

/-- The port for a scheme of sockets. -/
def schemePort? (scheme : Option String) : Option Nat :=
  if scheme = some "ws" then some 80
  else if scheme = some "wss" then some 443
  else none

/-- A host without the brackets around it. -/
def bareHost : List Char → List Char
  | '[' :: rest => rest.takeWhile (· ≠ ']')
  | cs => cs

/-- Reads the address of a socket. -/
def ofText (s : String) : Except Fault SocketAddress := do
  let uri ← (Uri.ofText s).mapError .malformed
  let some host := uri.host? | .error .noHost
  let some port := uri.port?.orElse fun _ => schemePort? uri.scheme | .error .unsupportedScheme
  return { host := String.ofList (bareHost host), port := port }

end SocketAddress

end BackendMonitor
