import BackendMonitor.Connection.Address
import BackendMonitor.Digest.Sha1
import BackendMonitor.Http.Message
import BackendMonitor.Text.Base64

/-!
# Handshakes

How a socket is opened: the client asks a server of the web to change the protocol and gives a key;
the server agrees and proves that it has seen the key.
-/

namespace BackendMonitor.Handshake

/-- What a key is followed by before its digest is taken. -/
def suffix : String := "258EAFA5-E914-47DA-95CA-C5AB0DC85B11"

/-- A key from random bytes. -/
def keyOf (random : List UInt8) : String :=
  String.ofList (Text.Base64.encode random)

/-- The proof that a key was seen. -/
def proofOf (key : String) : String :=
  String.ofList (Text.Base64.encode (Digest.Sha1.digest (Bytes.ofText (key ++ suffix))))

/-- The path and the query that are asked for. -/
def targetText (u : Uri) : String :=
  match u.target with
  | [] => "/"
  | '?' :: cs => String.ofList ('/' :: '?' :: cs)
  | cs => String.ofList cs

/-- The host and the port as the server is told them. -/
def hostText (u : Uri) : String :=
  let authority := u.authority.getD []
  String.ofList ((Text.afterLast? '@' authority).getD authority)

/-- What the client sends. -/
def request (u : Uri) (key : String) : List UInt8 :=
  Bytes.ofText (s!"GET {targetText u} HTTP/1.1\r\n" ++
    s!"Host: {hostText u}\r\n" ++
    "Connection: Upgrade\r\nUpgrade: websocket\r\nSec-WebSocket-Version: 13\r\n" ++
    s!"Sec-WebSocket-Key: {key}\r\n\r\n")

/-- What has arrived of the answer. -/
inductive Answer where
  /-- There is more to come. -/
  | partly
  /-- The socket is open; what follows the answer belongs to it. -/
  | agreed (rest : List UInt8)
  | refused
deriving DecidableEq, Repr

/-- The value of a field, with its letters as they are. -/
def exactField? (name : String) (fields : List (List UInt8)) : Option String :=
  (fields.find? fun l => Http.plain (l.takeWhile (· ≠ 0x3A)) == name).map fun l =>
    Text.trim (Text.Utf8.decodeLossy ((l.dropWhile (· ≠ 0x3A)).drop 1))

/-- Whether the head of an answer agrees to a key. -/
def agrees (key : String) (first : List UInt8) (fields : List (List UInt8)) : Bool :=
  Http.status? first == some 101 &&
    Http.field? "upgrade" fields == some "websocket" &&
    (Http.field? "connection" fields).any (fun v => v.splitOn "upgrade" != [v]) &&
    exactField? "sec-websocket-accept" fields == some (proofOf key)

/-- Reads the answer to a key. -/
def answer (key : String) (bytes : List UInt8) : Answer :=
  match Http.head? bytes with
  | none => .partly
  | some ([], _) => .refused
  | some (first :: fields, rest) => if agrees key first fields then .agreed rest else .refused

end BackendMonitor.Handshake
