import BackendMonitor.Bytes
import BackendMonitor.Connection.Socket

/-!
# Frames

The bytes of an open socket. They are cut into frames; the frames of text and of bytes may be spread
over several, between which frames that keep the stream alive may stand.

* `Frame.ofBytes` takes the first frame off what has arrived;
* `Assembly.receive` makes stream items of all that has arrived, up to the first violation of the
  protocol;
* `Frame.toBytes` is a frame as a client sends it, under a mask.
-/

namespace BackendMonitor

/-- The kinds of frames. -/
inductive Opcode where
  | continuation
  | text
  | binary
  | close
  | ping
  | pong
deriving DecidableEq, Repr

namespace Opcode

/-- The number of a kind of frames. -/
def number : Opcode → UInt8
  | .continuation => 0
  | .text => 1
  | .binary => 2
  | .close => 8
  | .ping => 9
  | .pong => 10

/-- The kind of frames with a number. -/
def ofNumber? (n : UInt8) : Option Opcode :=
  [.continuation, .text, .binary, .close, .ping, .pong].find? (·.number == n)

/-- Whether frames of a kind stand for themselves. -/
def isControl : Opcode → Bool
  | .close | .ping | .pong => true
  | _ => false

end Opcode

/-- A frame. -/
structure Frame where
  /-- Whether it is the last one of its message. -/
  final : Bool := true
  opcode : Opcode
  payload : List UInt8
deriving DecidableEq, Repr

namespace Frame

/-- The greatest length of a payload. -/
def maxLength : Nat := 16 * 1024 * 1024

/-- What stands at the start of what has arrived. -/
inductive Reading where
  /-- There is more to come. -/
  | partly
  | frame (f : Frame) (rest : List UInt8)
  | violation (reason : String)
deriving DecidableEq, Repr

/-- The length of the payload, which may be written out behind the first two bytes. -/
def length? (short : Nat) (rest : List UInt8) : Option (Nat × List UInt8) :=
  let written := if short = 126 then 2 else if short = 127 then 8 else 0
  if rest.length < written then none
  else some (if written = 0 then short else Bytes.toNat (rest.take written), rest.drop written)

/-- What is wrong with the first bytes of a frame from a server. -/
def problem? (first second : UInt8) (length : Nat) : Option String :=
  match Opcode.ofNumber? (first &&& 0x0F) with
  | none => some "invalid opcode"
  | some opcode =>
    if first &&& 0x70 ≠ 0 then some "reserved bits are set"
    else if second &&& 0x80 ≠ 0 then some "masked frame from server"
    else if opcode.isControl && first &&& 0x80 = 0 then some "fragmented control frame"
    else if opcode.isControl && 125 < length then some "control frame too big"
    else if maxLength < length then some "frame too long"
    else none

/-- Takes the first frame off. -/
def ofBytes : List UInt8 → Reading
  | first :: second :: rest =>
    match length? (second &&& 0x7F).toNat rest with
    | none => .partly
    | some (length, rest) =>
      match problem? first second length, Opcode.ofNumber? (first &&& 0x0F) with
      | some reason, _ => .violation reason
      | none, none => .violation "invalid opcode"
      | none, some opcode =>
        if rest.length < length then .partly
        else
          .frame ⟨first &&& 0x80 ≠ 0, opcode, rest.take length⟩ (rest.drop length)
  | _ => .partly

theorem length_length?_le {short n : Nat} {bytes rest : List UInt8}
    (h : length? short bytes = some (n, rest)) : rest.length ≤ bytes.length := by
  obtain ⟨-, -, rfl⟩ : _ ∧ _ ∧ _ := by simpa only [length?, Option.ite_none_left_eq_some,
    Option.some.injEq, Prod.mk.injEq] using h
  rw [List.length_drop]
  exact Nat.sub_le _ _

theorem length_ofBytes_lt {f : Frame} {bytes rest : List UInt8}
    (h : ofBytes bytes = .frame f rest) : rest.length < bytes.length := by
  fun_cases ofBytes bytes with
  | case5 first second bytes length more hl opcode hp ho hn =>
    simp only [ofBytes, hl, hp, ho, if_neg hn, Reading.frame.injEq] at h
    have := length_length?_le hl
    rw [← h.2, List.length_drop, List.length_cons, List.length_cons]
    omega
  | _ => simp_all [ofBytes]

/-- The length of a payload as it is written, in one byte and the bytes behind it. -/
def lengthBytes (n : Nat) : UInt8 × List UInt8 :=
  if n < 126 then (UInt8.ofNat n, [])
  else if n < 0x10000 then (126, Bytes.ofNat 2 n)
  else (127, Bytes.ofNat 8 n)

/-- Bytes under a mask, which is repeated. -/
def masked (mask bytes : List UInt8) : List UInt8 :=
  bytes.zipIdx.map fun (b, i) => b ^^^ mask.getD (i % 4) 0

/-- A frame as a client sends it. -/
def toBytes (mask : List UInt8) (f : Frame) : List UInt8 :=
  let (short, long) := lengthBytes f.payload.length
  ((if f.final then 0x80 else 0) ||| f.opcode.number) :: (0x80 ||| short) ::
    (long ++ mask ++ masked mask f.payload)

end Frame

/-- A message that has not come in full: whether it is text, and what came of it. -/
structure Assembly where
  begun : Option (Bool × List UInt8) := none
deriving DecidableEq, Repr

namespace Assembly

/-- The item that a whole message makes. -/
def item (isText : Bool) (bytes : List UInt8) : StreamItem :=
  if isText then
    match Text.Utf8.text? bytes with
    | some s => .text s
    | none => .failure "text is not UTF-8"
  else .binary bytes

/-- The item that a closing frame makes. It has no payload, or a code and a reason in text. -/
def closeItem (bytes : List UInt8) : StreamItem :=
  if bytes.length = 1 || (Text.Utf8.text? (bytes.drop 2)).isNone then
    .failure "invalid close sequence"
  else .close

/-- Takes a part of a message. -/
def add (isText final : Bool) (bytes : List UInt8) : Option StreamItem × Assembly :=
  if final then (some (item isText bytes), {}) else (none, ⟨some (isText, bytes)⟩)

/-- Takes a frame; the item is there if one is complete. -/
def take (f : Frame) (a : Assembly) : Option StreamItem × Assembly :=
  match f.opcode, a.begun with
  | .ping, _ => (some (.ping f.payload), a)
  | .pong, _ => (some (.pong f.payload), a)
  | .close, _ => (some (closeItem f.payload), a)
  | .continuation, some (isText, bytes) => add isText f.final (bytes ++ f.payload)
  | .continuation, none => (some (.failure "unexpected continuation frame"), a)
  | .text, none => add true f.final f.payload
  | .binary, none => add false f.final f.payload
  | _, some _ => (some (.failure "message inside a fragmented one"), a)

/-- Whether nothing is looked at behind an item. -/
def isLast : StreamItem → Bool
  | .close | .failure _ => true
  | _ => false

/-- Takes as many frames off what has arrived as there are. What comes back are their items, the
assembly, and the bytes that are left. -/
def receive (a : Assembly) (bytes : List UInt8) : List StreamItem × Assembly × List UInt8 :=
  match _h : Frame.ofBytes bytes with
  | .partly => ([], a, bytes)
  | .violation reason => ([.failure reason], a, [])
  | .frame f rest =>
    match a.take f with
    | (none, a) => receive a rest
    | (some i, a) =>
      if isLast i then ([i], a, [])
      else
        let (items, a, rest) := receive a rest
        (i :: items, a, rest)
termination_by bytes.length
decreasing_by
  all_goals exact Frame.length_ofBytes_lt _h

end Assembly

end BackendMonitor
