import Mathlib.Data.List.Induction
import BackendMonitor.Event.Activity

/-!
# What the activity log holds

The log is told of frames one by one. It holds the latest of the events in them, newest first, each
under the number of events before it; what is no event leaves no trace.

* `ActivityLog.feed`: the entries of all events, newest first;
* `ActivityLog.Holds`: the log has been told of these events. `Holds.push` is the step,
  `holds_pushFrames` the run;
* `ActivityLog.HoldsLatest`: what the log holds then, and what it answers to a further frame;
* `ActivityLog.log_holds_latest`: so it is after any frames.
-/

namespace BackendMonitor

/-- The entry of an event under a number. -/
def Event.entry (id : Nat) (e : Event) : ActivityEntry :=
  ⟨id, e.type, e.timestamp, e.payload⟩

namespace ActivityLog

variable {log : ActivityLog} {capacity : Nat} {es : List Event}

/-! ## Events -/

/-- The entries of all events, newest first: each has the number of the events before it. -/
def feed (es : List Event) : List ActivityEntry :=
  (es.mapIdx Event.entry).reverse

@[simp] theorem feed_nil : feed [] = [] := rfl

@[simp] theorem feed_concat (es : List Event) (e : Event) :
    feed (es ++ [e]) = e.entry es.length :: feed es := by
  simp [feed]

@[simp] theorem length_feed (es : List Event) : (feed es).length = es.length := by
  simp [feed]

/-- The numbers of entries count down to zero. -/
theorem map_id_feed (es : List Event) : (feed es).map (·.id) = (List.range es.length).reverse := by
  induction es using List.reverseRecOn with
  | nil => rfl
  | append_singleton es e ih =>
    rw [feed_concat, List.map_cons, ih, List.length_append, List.length_singleton, List.range_succ,
      List.reverse_append]
    rfl

/-- The first numbers of those that count down go on without a gap. -/
theorem take_reverse_range (n m : Nat) :
    (List.range n).reverse.take m = (List.range' (n - min n m) (min n m)).reverse := by
  rw [List.take_reverse, List.range_eq_range', List.length_range', List.drop_range', Nat.zero_add,
    Nat.mul_one]
  congr 2 <;> omega

/-! ## The log -/

/-- Records the events in frames, one by one. -/
def pushFrames (log : ActivityLog) (frames : List String) : ActivityLog :=
  frames.foldl (fun log frame => (log.pushFrame frame).1) log

@[simp] theorem pushFrames_concat (log : ActivityLog) (frames : List String) (frame : String) :
    log.pushFrames (frames ++ [frame]) = ((log.pushFrames frames).pushFrame frame).1 := by
  simp [pushFrames]

/-- A log with room for `capacity` entries, or for one, has been told of these events. -/
structure Holds (log : ActivityLog) (capacity : Nat) (es : List Event) : Prop where
  capacity_eq : log.capacity = capacity
  entries_eq : log.entries = (feed es).take (max capacity 1)
  nextId_eq : log.nextId = es.length

theorem holds_nil (capacity : Nat) : Holds { capacity := capacity } capacity [] :=
  ⟨rfl, by simp, rfl⟩

theorem Holds.entryFor (h : Holds log capacity es) (e : Event) :
    log.entryFor e = e.entry es.length := by
  rw [ActivityLog.entryFor, h.nextId_eq, Event.entry]

/-- An event comes in front of the others. Of these the oldest goes, if there is no room for it. -/
theorem Holds.push (h : Holds log capacity es) (e : Event) :
    Holds (log.push e) capacity (es ++ [e]) where
  capacity_eq := h.capacity_eq
  entries_eq := by
    obtain ⟨room, hroom⟩ : ∃ room, max capacity 1 = room + 1 := ⟨max capacity 1 - 1, by omega⟩
    simp only [ActivityLog.push, h.entryFor, h.capacity_eq, h.entries_eq, feed_concat, hroom,
      List.take_succ_cons, List.take_take]
    rw [Nat.min_eq_left (Nat.le_succ room)]
  nextId_eq := by
    simp [ActivityLog.push, h.nextId_eq]

/-- A frame counts if there is an event in it. -/
theorem Holds.pushFrame (h : Holds log capacity es) (frame : String) :
    Holds (log.pushFrame frame).1 capacity (es ++ (Event.ofFrame? frame).toList) := by
  rw [ActivityLog.pushFrame]
  cases Event.ofFrame? frame with
  | some e => exact h.push e
  | none => rwa [Option.toList_none, List.append_nil]

theorem holds_pushFrames (capacity : Nat) (frames : List String) :
    Holds (pushFrames { capacity := capacity } frames) capacity
      (frames.filterMap Event.ofFrame?) := by
  induction frames using List.reverseRecOn with
  | nil => exact holds_nil capacity
  | append_singleton frames frame ih =>
    have hnew : [frame].filterMap Event.ofFrame? = (Event.ofFrame? frame).toList := by
      cases hf : Event.ofFrame? frame <;> simp [hf]
    rw [List.filterMap_append, hnew, pushFrames_concat]
    exact ih.pushFrame frame

/-- A log that is asked for no room has room for one entry. -/
theorem Holds.size_eq (h : Holds log capacity es) : log.size = min es.length (max capacity 1) := by
  rw [size, h.entries_eq, List.length_take, length_feed, Nat.min_comm]

theorem Holds.ids_eq (h : Holds log capacity es) :
    log.entries.map (·.id) = (List.range' (es.length - log.size) log.size).reverse := by
  rw [h.size_eq, h.entries_eq, List.map_take, map_id_feed, take_reverse_range]

/-- The entry of the event with a number, as long as not too many have come after it. -/
theorem Holds.entry_eq (h : Holds log capacity es) {i : Nat} {e : Event} (he : es[i]? = some e)
    (hi : es.length ≤ i + max capacity 1) :
    log.entries[es.length - 1 - i]? = some (e.entry i) := by
  obtain ⟨hlt, rfl⟩ := List.getElem?_eq_some_iff.1 he
  have hroom : es.length - 1 - i < max capacity 1 := by omega
  have hback : es.length - 1 - (es.length - 1 - i) = i := by omega
  rw [h.entries_eq, List.getElem?_take_of_lt hroom, feed, List.getElem?_reverse (by simp; omega)]
  simp [hback, hlt]

/-- What a log with room for `capacity` entries holds after the events `es`, and what it answers to a
further frame. -/
structure HoldsLatest (log : ActivityLog) (capacity : Nat) (es : List Event) : Prop where
  entries : log.entries = (es.mapIdx Event.entry).reverse.take (max capacity 1)
  size_eq : log.size = min es.length (max capacity 1)
  size_le : log.size ≤ max capacity 1
  /-- The entry of each event that is not too old. -/
  entry : ∀ i e, es[i]? = some e → es.length ≤ i + max capacity 1 →
    log.entries[es.length - 1 - i]? = some ⟨i, e.type, e.timestamp, e.payload⟩
  ids : log.entries.map (·.id) = (List.range' (es.length - log.size) log.size).reverse
  /-- A frame without an event changes nothing. The entry of an event is answered, and is then the
  first. -/
  pushFrame : ∀ frame, match Event.ofFrame? frame with
    | none => log.pushFrame frame = (log, none)
    | some e =>
      let entry : ActivityEntry := ⟨es.length, e.type, e.timestamp, e.payload⟩
      (log.pushFrame frame).2 = some entry ∧
        (log.pushFrame frame).1.entries.head? = some entry

/-- Whatever frames come, and however much room there is: the log holds the latest events, as many as
there is room for and at least one, newest first. Each stands there with its type, its time and what
came with it, under the number of events before it, so that the numbers go down one by one. -/
theorem log_holds_latest (capacity : Nat) (frames : List String) :
    HoldsLatest (pushFrames { capacity := capacity } frames) capacity
      (frames.filterMap Event.ofFrame?) := by
  have h := holds_pushFrames capacity frames
  generalize pushFrames { capacity := capacity } frames = log,
    frames.filterMap Event.ofFrame? = es at h
  refine ⟨h.entries_eq, h.size_eq, ?_, fun i e => h.entry_eq, h.ids_eq, fun frame => ?_⟩
  · rw [h.size_eq]
    exact Nat.min_le_right _ _
  · rw [ActivityLog.pushFrame]
    cases Event.ofFrame? frame with
    | none => rfl
    | some e =>
      refine ⟨congrArg some (h.entryFor e), ?_⟩
      rw [(h.push e).entries_eq, feed_concat, List.head?_take, if_neg (by omega)]
      rfl

/-- An event, what is none, and another event. -/
def mixedFrames : List String :=
  ["\x7b\"type\":\"heartbeat\"\x7d", "heartbeat", "\x7b\"payload\":7,\"type\":\"custom\"\x7d"]

theorem log_holds_latest_noRoom :
    let log := pushFrames { capacity := 0 } mixedFrames
    log.size = 1 ∧ log.entries[0]? = some ⟨1, .other "custom", none, .nat 7⟩ := by
  intro log
  have h := log_holds_latest 0 mixedFrames
  have hes : mixedFrames.filterMap Event.ofFrame? =
      [{ type := .heartbeat }, { type := .other "custom", payload := .nat 7 }] := rfl
  rw [hes] at h
  exact ⟨h.size_eq, h.entry 1 _ rfl (Nat.le_refl 2)⟩

end ActivityLog

end BackendMonitor
