import BackendMonitor.Failure
import BackendMonitor.Json.Decoder
import BackendMonitor.Text.Utf8
import BackendMonitor.Uri
import BackendMonitor.Url

/-!
# HTTP

Requests and responses, as far as a client of the REST interface sees them. An exchange is a request
together with the way its answer is read; whoever carries it out only has to hand over the response,
or to say that none came.
-/

namespace BackendMonitor.Http

open Json

/-- The methods of requests. -/
inductive Method where
  | get
  | post
deriving DecidableEq, Repr

/-- The name of a method. -/
def Method.name : Method → String
  | .get => "GET"
  | .post => "POST"

/-- A request. -/
structure Request where
  method : Method
  url : Url
  /-- A JSON document. -/
  body : Option String := none
deriving DecidableEq, Repr

/-- What the client calls itself. -/
def userAgent : String := "stoat-client/0.3.0"

/-- The headers of a request. -/
def Request.headers (r : Request) : List (String × String) :=
  [("accept", "application/json"), ("user-agent", userAgent)] ++
    (if r.body.isSome then [("content-type", "application/json")] else [])

/-- The body of a response. -/
inductive Body where
  | complete (bytes : List UInt8)
  /-- It broke off before its end. -/
  | brokenOff
deriving DecidableEq, Repr

/-- A response. -/
structure Response where
  status : Nat
  body : Body
deriving DecidableEq, Repr

namespace Response

/-- Whether a response says that all went well. -/
def isSuccess (r : Response) : Bool :=
  200 ≤ r.status && r.status < 300

/-- The text of the body. What is not UTF-8 is replaced; a body that broke off counts as empty. -/
def text (r : Response) : String :=
  match r.body with
  | .complete bytes => Text.Utf8.decodeLossy bytes
  | .brokenOff => ""

/-- What the body says, if it came in full and is a document of the expected kind. -/
def document? {α : Type} (d : Decoder α) (r : Response) : Option α :=
  match r.body with
  | .complete bytes => (d.ofGlyphs (Text.Utf8.decode bytes)).toOption
  | .brokenOff => none

/-- What the body says. -/
def decode {α : Type} (d : Decoder α) (r : Response) : Except Failure α :=
  match r.document? d with
  | some a => .ok a
  | none => .error ⟨.invalidData, "error decoding response body"⟩

/-- The message in the body of a refusal. It stands in the details, is the details, or stands beside
them; the first of these places that there is decides. -/
def message? (body : String) : Option String :=
  match Value.ofText body with
  | .error _ => none
  | .ok v =>
    let detail := v.get? "detail"
    let place := (detail.bind fun d => d.get? "message").or
      ((detail.filter fun d => d.text?.isSome).or (v.get? "message"))
    place.bind Value.text?

/-- Accepts a response that says that all went well. -/
def check (what : String) (r : Response) : Except Failure Response :=
  if r.isSuccess then .ok r
  else .error ⟨.api, (message? r.text).getD s!"{what} failed: HTTP {r.status}"⟩

end Response

/-- A request, and how its answer is read. -/
structure Exchange (α : Type) where
  request : Request
  read : Response → Except Failure α

namespace Exchange

/-- The failure of a request that is not answered. -/
def unanswered (r : Request) : Failure :=
  ⟨.network, s!"error sending request for url ({r.url.toText})"⟩

/-- The result of an exchange; without a response it fails. -/
def result {α : Type} (x : Exchange α) : Option Response → Except Failure α
  | some r => x.read r
  | none => .error (unanswered x.request)

end Exchange

/-- Makes a request for an address. Texts that are no address are refused, and so are addresses that
are not of the web or cannot be written into a request. -/
def request (method : Method) (address : String) (body : Option String) :
    Except Failure Request :=
  match Url.ofText? address with
  | none => .error ⟨.network, "builder error"⟩
  | some url =>
    if url.isHttp && (Uri.ofText url.toText).isOk then
      .ok { method := method, url := url, body := body }
    else .error ⟨.network, s!"builder error for url ({url.toText})"⟩

end BackendMonitor.Http
