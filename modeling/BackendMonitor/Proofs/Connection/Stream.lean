import BackendMonitor.Connection.Frame
import BackendMonitor.Proofs.Text.Utf8

/-!
# Streams of a socket

What a socket reports is made of the items of its stream. A stream goes on until it ends, and it can
end in three ways (`StreamEnd`): the peer closes it, it fails, or it just stops.

* `FrameStream`: the items of a stream up to its end, and `messages`, the payloads among them;
* `FrameStream.events_eq`: the socket reports just these messages, in order, then an error if the
  stream failed, and then that it is closed, over and over;
* `heard`: the messages among some events before the first that says that the socket is closed, and
  `FrameStream.heard_events_isPrefix`, `FrameStream.heard_of_closed`, which tie them to the stream.
-/

namespace BackendMonitor

/-! ## Items and their messages -/

/-- The message in an item: frames of text, and binary ones that are text as well. -/
def StreamItem.payload? : StreamItem → Option String
  | .text payload => some payload
  | .binary bytes => Text.Utf8.text? bytes
  | _ => none

/-- Bytes are a message just when they are those of a text. -/
theorem StreamItem.payload?_binary {bytes : List UInt8} {payload : String} :
    (StreamItem.binary bytes).payload? = some payload ↔ bytes = Bytes.ofText payload :=
  Text.Utf8.text?_eq_some_iff

/-- How a stream ends. What the network still has to give after a failure is of no concern. -/
inductive StreamEnd where
  | close
  | failure (reason : String) (rest : List StreamItem)
  /-- There are no more items. -/
  | stop
deriving DecidableEq, Repr

namespace StreamEnd

/-- The last item of a stream, and what comes after it. -/
def items : StreamEnd → List StreamItem
  | .close => [.close]
  | .failure reason rest => .failure reason :: rest
  | .stop => []

/-- What a socket reports when its stream ends. -/
def events : StreamEnd → List SocketEvent
  | .failure reason _ => [.error reason, .closed]
  | _ => [.closed]

end StreamEnd

/-- A stream up to its end. -/
structure FrameStream where
  body : List StreamItem
  fin : StreamEnd
  /-- Nothing in front of the end is an end. -/
  passing : ∀ i ∈ body, Assembly.isLast i = false

namespace FrameStream

/-- The stream that a socket reads. -/
def stream (f : FrameStream) : SocketStream where
  items := f.body ++ f.fin.items

/-- The messages of a stream, in order. -/
def messages (f : FrameStream) : List String :=
  f.body.filterMap StreamItem.payload?

/-- What a socket reports of a stream until it is closed. -/
def report (f : FrameStream) : List SocketEvent :=
  f.messages.map .message ++ f.fin.events

end FrameStream

/-- An item that does not end a stream makes no event but a message. -/
theorem StreamItem.event?_eq {i : StreamItem} (h : Assembly.isLast i = false) :
    i.event? = i.payload?.map .message := by
  cases i with
  | close | failure => cases h
  | _ => rfl

/-! ## The events of a stream -/

namespace SocketStream

variable {i : StreamItem}

theorem length_events (n : Nat) (s : SocketStream) : (s.events n).length = n := by
  induction n generalizing s with
  | zero => rfl
  | succ n ih => rw [events, List.length_cons, ih]

theorem take_events (m n : Nat) (s : SocketStream) : (s.events n).take m = s.events (min m n) := by
  induction n generalizing m s with
  | zero => rw [Nat.min_zero]; exact List.take_nil
  | succ n ih =>
    cases m with
    | zero => rw [Nat.zero_min]; rfl
    | succ m => rw [events, List.take_succ_cons, ih, Nat.succ_min_succ, events]

theorem events_isPrefix {m n : Nat} (h : m ≤ n) (s : SocketStream) :
    s.events m <+: s.events n := by
  rw [← Nat.min_eq_left h, ← take_events]
  exact List.take_prefix _ _

/-- After a failure a stream is closed. -/
theorem events_of_failed (n : Nat) (items : List StreamItem) :
    events n { items := items, failed := true } = .replicate n .closed := by
  induction n with
  | zero => rfl
  | succ n ih =>
    rw [events, List.replicate_succ, ← ih]
    rfl

theorem events_nil (n : Nat) : events n { items := [] } = .replicate n .closed := by
  induction n with
  | zero => rfl
  | succ n ih =>
    rw [events, List.replicate_succ, ← ih]
    rfl

theorem firstEvent_cons_of_some {payload : String} (hi : Assembly.isLast i = false)
    (hp : i.payload? = some payload) (items : List StreamItem) :
    firstEvent (i :: items) = (.message payload, { items := items }) := by
  have he : i.event? = some (.message payload) := by rw [StreamItem.event?_eq hi, hp]; rfl
  cases i with
  | close | failure => cases hi
  | _ => simp only [firstEvent, he]

/-- What carries no message is skipped. -/
theorem firstEvent_cons_of_none (hi : Assembly.isLast i = false) (hp : i.payload? = none)
    (items : List StreamItem) : firstEvent (i :: items) = firstEvent items := by
  have he : i.event? = none := by rw [StreamItem.event?_eq hi, hp]; rfl
  cases i with
  | close | failure => cases hi
  | _ => simp only [firstEvent, he]

/-- What comes in front of the end of a stream makes messages. -/
theorem events_append (n : Nat) {body : List StreamItem}
    (h : ∀ i ∈ body, Assembly.isLast i = false) (rest : List StreamItem) :
    events n { items := body ++ rest } =
      ((body.filterMap StreamItem.payload?).map SocketEvent.message ++
        events n { items := rest }).take n := by
  induction body generalizing n with
  | nil =>
    show events n { items := rest } = (events n { items := rest }).take n
    rw [take_events, Nat.min_self]
  | cons i body ih =>
    have hi := h i List.mem_cons_self
    have ih := fun n => ih n fun j hj => h j (List.mem_cons_of_mem _ hj)
    cases n with
    | zero => rfl
    | succ n =>
      cases hp : i.payload? with
      | none =>
        have hs : events (n + 1) { items := i :: (body ++ rest) } =
            events (n + 1) { items := body ++ rest } := by
          have hf := firstEvent_cons_of_none hi hp (body ++ rest)
          simp only [events, next, Bool.false_eq_true, if_false, hf]
        rw [List.filterMap_cons_none hp, ← ih]
        exact hs
      | some payload =>
        have hs : events (n + 1) { items := i :: (body ++ rest) } =
            .message payload :: events n { items := body ++ rest } := by
          have hf := firstEvent_cons_of_some hi hp (body ++ rest)
          simp only [events, next, Bool.false_eq_true, if_false, hf]
        have ht : ∀ k, (events (n + 1) { items := rest }).take (n - k) =
            (events n { items := rest }).take (n - k) := fun k => by
          rw [take_events, take_events, Nat.min_eq_left (by omega), Nat.min_eq_left (by omega)]
        have htail : ∀ ps : List SocketEvent, (ps ++ events (n + 1) { items := rest }).take n =
            (ps ++ events n { items := rest }).take n := fun ps => by
          rw [List.take_append, ht, ← List.take_append]
        rw [List.filterMap_cons_some hp, List.map_cons]
        show _ = SocketEvent.message payload :: (_ ++ events (n + 1) { items := rest }).take n
        rw [htail, ← ih]
        exact hs

end SocketStream

theorem StreamEnd.events_items (n : Nat) (e : StreamEnd) :
    SocketStream.events n { items := e.items } =
      (e.events ++ List.replicate n SocketEvent.closed).take n := by
  cases n with
  | zero => rfl
  | succ n =>
    cases e with
    | close =>
      show _ = SocketEvent.closed :: (List.replicate (n + 1) SocketEvent.closed).take n
      rw [List.take_replicate, Nat.min_eq_left (Nat.le_succ n), ← SocketStream.events_nil]
      rfl
    | failure reason rest =>
      show _ = SocketEvent.error reason :: (List.replicate (n + 2) SocketEvent.closed).take n
      rw [List.take_replicate, Nat.min_eq_left (Nat.le_add_right n 2),
        ← SocketStream.events_of_failed n rest]
      rfl
    | stop =>
      show _ = (List.replicate (n + 2) SocketEvent.closed).take (n + 1)
      rw [List.take_replicate, Nat.min_eq_left (Nat.le_succ _), ← SocketStream.events_nil]
      rfl

/-! ## What is heard of a stream -/

/-- The messages among some events up to the first that says that the socket is closed. -/
def heard : List SocketEvent → List String
  | [] => []
  | .message payload :: es => payload :: heard es
  | .error _ :: es => heard es
  | .closed :: _ => []

section Heard

variable {es fs : List SocketEvent}

theorem heard_append_of_notMem (h : SocketEvent.closed ∉ es) (fs : List SocketEvent) :
    heard (es ++ fs) = heard es ++ heard fs := by
  induction es with
  | nil => rfl
  | cons e es ih =>
    have ih := ih fun hm => h (List.mem_cons_of_mem e hm)
    cases e with
    | message payload => exact congrArg (payload :: ·) ih
    | error reason => exact ih
    | closed => exact absurd List.mem_cons_self h

/-- What comes after a socket is closed is not heard. -/
theorem heard_append_of_mem (h : SocketEvent.closed ∈ es) (fs : List SocketEvent) :
    heard (es ++ fs) = heard es := by
  induction es with
  | nil => exact absurd h List.not_mem_nil
  | cons e es ih =>
    rcases List.mem_cons.1 h with rfl | hm
    · rfl
    · cases e with
      | message payload => exact congrArg (payload :: ·) (ih hm)
      | error reason => exact ih hm
      | closed => rfl

theorem heard_isPrefix (h : es <+: fs) : heard es <+: heard fs := by
  obtain ⟨gs, rfl⟩ := h
  by_cases hc : SocketEvent.closed ∈ es
  · exact (heard_append_of_mem hc gs).symm ▸ List.prefix_rfl
  · rw [heard_append_of_notMem hc]
    exact List.prefix_append _ _

theorem heard_map_message (ps : List String) : heard (ps.map .message) = ps := by
  induction ps with
  | nil => rfl
  | cons p ps ih => exact congrArg (p :: ·) ih

end Heard

namespace FrameStream

variable (f : FrameStream)

/-- Whatever a stream consists of, and however it ends: the socket reports the messages of the
stream in order, and nothing else before its end. Then it reports an error if the stream failed, and
from then on that it is closed. -/
theorem events_eq (n : Nat) :
    f.stream.events n = (f.report ++ List.replicate n SocketEvent.closed).take n := by
  rw [stream, SocketStream.events_append n f.passing, StreamEnd.events_items, report, messages,
    List.append_assoc, List.take_append, List.take_take, Nat.min_eq_left (Nat.sub_le _ _),
    ← List.take_append]

theorem events_length_report : f.stream.events f.report.length = f.report := by
  rw [events_eq, List.take_left]

theorem heard_report : heard f.report = f.messages := by
  have hn : SocketEvent.closed ∉ f.messages.map SocketEvent.message := by simp
  rw [report, heard_append_of_notMem hn, heard_map_message]
  cases f.fin <;> exact List.append_nil _

theorem closed_mem_report : SocketEvent.closed ∈ f.report := by
  refine List.mem_append_right _ ?_
  cases f.fin with
  | failure => exact List.mem_cons_of_mem _ List.mem_cons_self
  | _ => exact List.mem_cons_self

/-- What is heard of a stream after its end are all its messages. -/
theorem heard_events_of_le {n : Nat} (h : f.report.length ≤ n) :
    heard (f.stream.events n) = f.messages := by
  obtain ⟨es, he⟩ := SocketStream.events_isPrefix h f.stream
  rw [events_length_report] at he
  rw [← he, heard_append_of_mem f.closed_mem_report, heard_report]

/-- What is heard of a stream are its first messages. -/
theorem heard_events_isPrefix (n : Nat) : heard (f.stream.events n) <+: f.messages := by
  rw [← f.heard_events_of_le (Nat.le_max_right n f.report.length)]
  exact heard_isPrefix (SocketStream.events_isPrefix (Nat.le_max_left _ _) _)

/-- Once a socket is closed, all messages of its stream were heard. -/
theorem heard_of_closed {n : Nat} (h : SocketEvent.closed ∈ f.stream.events n) :
    heard (f.stream.events n) = f.messages := by
  rw [← f.heard_events_of_le (Nat.le_max_right n f.report.length)]
  obtain ⟨es, he⟩ := SocketStream.events_isPrefix (Nat.le_max_left n f.report.length) f.stream
  rw [← he, heard_append_of_mem h]

/-- A stream has an end, and reports it in time. -/
theorem closed_mem_events : SocketEvent.closed ∈ f.stream.events f.report.length := by
  rw [events_length_report]
  exact f.closed_mem_report

end FrameStream

/-- Pings, pongs and bytes that are no text are skipped; bytes that are text make a message; and
the error comes once. -/
example :
    let f : FrameStream :=
      { body := [.ping [], .text "a", .binary [0xFF], .pong [1], .binary [0x62]]
        fin := .failure "reset" [.text "c"]
        passing := by decide }
    f.stream.events 6 =
      [.message "a", .message "b", .error "reset", .closed, .closed, .closed] := by
  decide +kernel

end BackendMonitor
