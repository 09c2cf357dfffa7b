import BackendMonitor.Bytes
import BackendMonitor.Http
import BackendMonitor.Text.Blank
import BackendMonitor.Text.Hex

/-!
# HTTP messages

Requests and responses as bytes, in version 1.1 of the protocol.

* `Request.toBytes` is what is sent;
* `Response.ofBytes` reads what has arrived so far. It says whether the response is there, whether
  more has to come, or that what came is no response.
-/

namespace BackendMonitor.Http

/-- The host and the port of an address as a server is told them. -/
def hostText (u : Url) : String :=
  String.ofList (u.authorityText.drop 2)

/-- A request as it is sent. The connection is not used again. -/
def Request.toBytes (r : Request) : List UInt8 :=
  let body := r.body.getD ""
  let fields := [("host", hostText r.url), ("connection", "close")] ++ r.headers ++
    (if r.body.isSome || r.method = .post then
      [("content-length", toString body.utf8ByteSize)] else [])
  let head := s!"{r.method.name} {String.ofList r.url.target} HTTP/1.1\r\n" ++
    String.join (fields.map fun (name, value) => s!"{name}: {value}\r\n") ++ "\r\n"
  Bytes.ofText (head ++ body)

/-! ## Lines -/

/-- Takes a line off; it ends with a line feed, before which a carriage return does not count. -/
def line? : List UInt8 → Option (List UInt8 × List UInt8)
  | [] => none
  | 0x0D :: 0x0A :: rest => some ([], rest)
  | 0x0A :: rest => some ([], rest)
  | b :: rest => (line? rest).map fun (line, rest) => (b :: line, rest)

theorem length_line?_lt {bytes line rest : List UInt8} (h : line? bytes = some (line, rest)) :
    rest.length < bytes.length := by
  fun_induction line? bytes generalizing line with
  | case1 => simp at h
  | case2 | case3 =>
    obtain ⟨-, rfl⟩ : _ ∧ _ := by simpa using h
    simp only [List.length_cons]
    omega
  | case4 b more _ _ ih =>
    obtain ⟨⟨l, r⟩, hl, heq⟩ := Option.map_eq_some_iff.1 h
    simp only [Prod.mk.injEq] at heq
    have := ih (hl.trans (by rw [heq.2]))
    simp only [List.length_cons]
    omega

/-- The lines before an empty one, and what follows it. -/
def head? (bytes : List UInt8) : Option (List (List UInt8) × List UInt8) :=
  match _h : line? bytes with
  | none => none
  | some ([], rest) => some ([], rest)
  | some (b :: line, rest) => (head? rest).map fun (lines, rest) => ((b :: line) :: lines, rest)
termination_by bytes.length
decreasing_by exact length_line?_lt _h

theorem length_head?_lt {bytes rest : List UInt8} {lines : List (List UInt8)}
    (h : head? bytes = some (lines, rest)) : rest.length < bytes.length := by
  fun_induction head? bytes generalizing lines with
  | case1 => simp at h
  | case2 bytes more hl =>
    obtain ⟨-, rfl⟩ : _ ∧ _ := by simpa using h
    exact length_line?_lt hl
  | case3 bytes b line more hl ih =>
    obtain ⟨⟨l, r⟩, hr, heq⟩ := Option.map_eq_some_iff.1 h
    simp only [Prod.mk.injEq] at heq
    have := ih (hr.trans (by rw [heq.2]))
    have := length_line?_lt hl
    omega

/-- The text of bytes, in small letters and without blanks around it. -/
def plain (bytes : List UInt8) : String :=
  (Text.trim (Text.Utf8.decodeLossy bytes)).toLower

/-- The value of a field of a head. -/
def field? (name : String) (lines : List (List UInt8)) : Option String :=
  (lines.find? fun l => plain (l.takeWhile (· ≠ 0x3A)) == name).map fun l =>
    plain ((l.dropWhile (· ≠ 0x3A)).drop 1)

/-! ## Responses -/

/-- Whether more bytes follow those that have arrived. -/
inductive Supply where
  | awaited
  /-- The server has closed the stream in good order. -/
  | ended
  /-- The stream broke off, or was not waited for any longer. -/
  | lost
deriving DecidableEq, Repr

/-- What has arrived of something. -/
inductive Arrival (α : Type) where
  /-- There is more to come. -/
  | partly
  | complete (a : α)
  /-- It is no such thing. -/
  | malformed
deriving DecidableEq, Repr

/-- The status in the first line of a response. -/
def status? (line : List UInt8) : Option Nat :=
  match line with
  | 0x48 :: 0x54 :: 0x54 :: 0x50 :: 0x2F :: 0x31 :: 0x2E :: _ :: 0x20 :: a :: b :: c :: rest =>
    let digits := [a, b, c]
    if digits.all (fun d => 0x30 ≤ d && d ≤ 0x39) && rest.head?.all (· = 0x20) then
      some (digits.foldl (fun n d => 10 * n + (d.toNat - 0x30)) 0)
    else none
  | _ => none

/-- The number in digits of base sixteen at the start of a line. -/
def chunkSize? (line : List UInt8) : Option Nat :=
  let values := line.map fun b => Text.hexValue? (Char.ofNat b.toNat)
  let digits := (values.takeWhile Option.isSome).map (·.getD 0)
  if digits.isEmpty then none else some (digits.foldl (fun n d => 16 * n + d) 0)

/-- What has arrived of a body in chunks. -/
def chunks (soFar : List UInt8) (bytes : List UInt8) : Arrival (List UInt8) :=
  match _h : line? bytes with
  | none => .partly
  | some (size, rest) =>
    match chunkSize? size with
    | none => .malformed
    | some 0 => if (head? rest).isSome then .complete soFar else .partly
    | some n =>
      if rest.length < n + 2 then .partly
      else chunks (soFar ++ rest.take n) (rest.drop (n + 2))
termination_by bytes.length
decreasing_by
  have := length_line?_lt _h
  simp only [List.length_drop]
  omega

/-- What a body is of which a part is missing. -/
def lacking (supply : Supply) (status : Nat) : Arrival Response :=
  match supply with
  | .awaited => .partly
  | .ended | .lost => .complete ⟨status, .brokenOff⟩

/-- A body that goes on to the end of the stream. -/
def untilEnd (supply : Supply) (status : Nat) (bytes : List UInt8) : Arrival Response :=
  match supply with
  | .ended => .complete ⟨status, .complete bytes⟩
  | .awaited | .lost => lacking supply status

/-- Reads a body whose head has these fields. -/
def bodyOf (supply : Supply) (status : Nat) (fields : List (List UInt8)) (bytes : List UInt8) :
    Arrival Response :=
  if status = 204 || status = 304 then .complete ⟨status, .complete []⟩
  else if field? "transfer-encoding" fields = some "chunked" then
    match chunks [] bytes with
    | .partly => lacking supply status
    | .complete body => .complete ⟨status, .complete body⟩
    | .malformed => .complete ⟨status, .brokenOff⟩
  else
    match field? "content-length" fields with
    | some length =>
      match Url.numberIn? 10 length.toList with
      | none => .malformed
      | some n =>
        if n ≤ bytes.length then .complete ⟨status, .complete (bytes.take n)⟩
        else lacking supply status
    | none => untilEnd supply status bytes

/-- Reads what has arrived. Responses that only announce another one are passed over. -/
def Response.ofBytes (supply : Supply) (bytes : List UInt8) : Arrival Response :=
  match _h : head? bytes with
  | none => if supply = .awaited then .partly else .malformed
  | some ([], _) => .malformed
  | some (first :: fields, rest) =>
    match status? first with
    | none => .malformed
    | some status =>
      if status < 200 then Response.ofBytes supply rest
      else bodyOf supply status fields rest
termination_by bytes.length
decreasing_by exact length_head?_lt _h

end BackendMonitor.Http
