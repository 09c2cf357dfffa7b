import BackendMonitor.Proofs.Connection.Teardown

/-!
# What holds up the end of a connection

Neither an attempt nor a delay nor an open socket with nothing to say holds up the end of a
connection: once it is torn down, its task lets go of the socket as soon as it runs. A write does.
The task waits for it however long it takes, and closes the socket only when it is over.

* `Run.leaves_unless_writing`: both, for all runs;
* `Run.stays_open_midWrite`: a socket that stays open after the end of its connection for as long as
  its other end takes nothing.
-/

namespace BackendMonitor.Connection

/-- Whether a write is under way, and not over. -/
def Task.isWriting : Task → Bool
  | .writing _ _ finished => !finished
  | _ => false

theorem Task.eq_writing {t : Task} (h : t.isWriting = true) :
    ∃ url s, t = .writing url s false := by
  cases t with
  | writing url s finished =>
    cases finished with
    | false => exact ⟨url, s, rfl⟩
    | true => cases h
  | _ => cases h

/-- Nothing but the end of the write moves the task. -/
theorem writing_act {c : Connection} (hd : c.disposed = true) (hw : c.task.isWriting = true)
    (now : Nat) {e : Event} (he : e ≠ .news .written) :
    (e.act now c).task.isWriting = true ∧ (e.act now c).calls = c.calls := by
  obtain ⟨url, s, ht⟩ := Task.eq_writing hw
  rcases act_cases hd now e with rfl | ⟨n, rfl⟩ | ⟨held, ha⟩
  · rw [Event.act, turn_of_disposed hd, ht]
    exact ⟨hw, rfl⟩
  · cases n with
    | written => exact absurd rfl he
    | answered failure => simp [Event.act, notice, ht, Task.isWriting]
    | closed => simp [Event.act, notice, ht, Task.isWriting]
    | event e => simp [Event.act, notice, ht, proceed, Task.receive, Task.isWriting]
  · rw [ha]
    exact ⟨hw, rfl⟩

namespace Run

variable {r : Run}

theorem writing_after (hd : r.connection.disposed = true) (hw : r.connection.task.isWriting = true)
    {es : List Event} (hn : .news .written ∉ es) :
    (r.after es).connection.task.isWriting = true ∧
      (r.after es).connection.calls = r.connection.calls := by
  induction es generalizing r with
  | nil => exact ⟨hw, rfl⟩
  | cons e es ih =>
    obtain ⟨he, hn⟩ := not_or.1 (List.mem_cons.not.1 hn)
    obtain ⟨hw', hc⟩ := writing_act hd hw r.now (Ne.symm he)
    obtain ⟨h, hc'⟩ := ih (disposed_after hd [e]) hw' hn
    exact ⟨h, hc'.trans hc⟩

/-- No other task waits for anything but its turns. -/
theorem leaves_at_once (hd : r.connection.disposed = true)
    (hr : r.connection.task.isRunning = true) (hw : r.connection.task.isWriting = false) :
    let c' := (r.after [.turn, .turn]).connection
    c'.task.isLeaving = true ∧
      (r.connection.task.isPumping = true →
        ∃ k, r.connection.current? = some k ∧
          c'.calls = (r.now, .close k) :: r.connection.calls) := by
  have hturn : r.after [.turn, .turn] = (r.step .turn).step .turn := rfl
  cases ht : r.connection.task with
  | unstarted | ended => rw [ht] at hr; cases hr
  | starting url | opening url deadline answer | waiting url next =>
    refine ⟨?_, fun hp => by cases hp⟩
    simp [hturn, step, Event.act, turn, proceed, hd, ht, Task.isLeaving]
  | pumping url s =>
    refine ⟨?_, fun _ => ⟨s.number, by simp [current?, ht, Task.socket?], ?_⟩⟩
    · simp [hturn, step, Event.act, turn, close, call, proceed, hd, ht, Task.isLeaving]
    · simp [hturn, step, Event.act, turn, close, call, proceed, hd, ht]
  | writing url s finished =>
    cases finished with
    | false => rw [ht] at hw; cases hw
    | true =>
      refine ⟨?_, fun _ => ⟨s.number, by simp [current?, ht, Task.socket?], ?_⟩⟩
      · simp [hturn, step, Event.act, turn, close, call, proceed, hd, ht, Task.isLeaving]
      · simp [hturn, step, Event.act, Event.duration, turn, close, call, proceed, hd, ht]
  | closing s finished =>
    refine ⟨?_, fun hp => by cases hp⟩
    cases finished with
    | false => simp [hturn, step, Event.act, turn, ht, Task.isLeaving]
    | true => simp [hturn, step, Event.act, turn, proceed, hd, ht, Task.isLeaving]

/-- Once the write is over the socket is closed at the second turn. -/
theorem closes_after_write (hd : r.connection.disposed = true)
    (hw : r.connection.task.isWriting = true) {es : List Event}
    (hs : List.Sublist [.news .written, .turn, .turn] es) :
    ∃ now k, r.connection.current? = some k ∧
      (r.after es).connection.calls = (now, .close k) :: r.connection.calls := by
  have hp : 3 ≤ (r.after es).connection.task.progress :=
    progress_after hd (k := 3) (Nat.le_add_left 3 2) (Nat.zero_le _) hs
  obtain ⟨url, s, ht⟩ := Task.eq_writing hw
  have hpump : r.connection.task.isPumping = true := by rw [ht]; rfl
  obtain ⟨now, k, hk, hc⟩ := ((Over.refl hd).after es).course.calls_of_progress hpump hp
  exact ⟨now, k, hk, hc⟩

/-- After a connection is torn down its task, as soon as it runs, lets go of the socket that it
holds or ends, without any news from the network, unless it is in the middle of a write. Then it
waits, and does nothing as long as the write is not over, whatever else happens and however long it
takes; when the write is over it closes the socket. -/
theorem leaves_unless_writing {r : Run} (hd : r.connection.disposed = true) :
    let c := r.connection
    (c.task.isRunning = true → c.task.isWriting = false →
      let c' := (r.after [.turn, .turn]).connection
      c'.task.isLeaving = true ∧
        (c.task.isPumping = true →
          ∃ k, c.current? = some k ∧ c'.calls = (r.now, .close k) :: c.calls)) ∧
    (c.task.isWriting = true → ∀ es,
      (.news .written ∉ es → (r.after es).connection.task.isWriting = true ∧
        (r.after es).connection.calls = c.calls) ∧
      (List.Sublist [.news .written, .turn, .turn] es →
        ∃ now k, c.current? = some k ∧
          (r.after es).connection.calls = (now, .close k) :: c.calls)) :=
  ⟨leaves_at_once hd, fun hw _ => ⟨writing_after hd hw, closes_after_write hd hw⟩⟩

/-- A connection that is torn down in the middle of a write. -/
def midWrite : Run :=
  (start .standard).after [.connect "ws://localhost", .turn, .news (.answered none), .turn,
    .send "a", .turn, .dispose]

/-- Once the write is over the socket is closed. -/
theorem leaves_unless_writing_midWrite :
    midWrite.connection.disposed = true ∧
      ∃ now, (midWrite.after [.pass 500, .news .written, .turn, .turn]).connection.calls =
        (now, .close 1) :: midWrite.connection.calls := by
  have hd : midWrite.connection.disposed = true := by decide
  have hs : List.Sublist [Event.news .written, .turn, .turn]
      [.pass 500, .news .written, .turn, .turn] := (List.Sublist.refl _).cons _
  obtain ⟨now, k, hk, hc⟩ := ((leaves_unless_writing hd).2 (by decide) _).2 hs
  cases hk
  exact ⟨hd, now, hc⟩

/-- As long as the write is not over the task neither ends nor closes the socket. -/
theorem stays_open_midWrite :
    midWrite.connection.disposed = true ∧ midWrite.connection.current? = some 1 ∧
      ∀ es, .news .written ∉ es →
        (midWrite.after es).connection.task.isRunning = true ∧
          ∀ now, (now, .close 1) ∉ (midWrite.after es).connection.calls := by
  have hd : midWrite.connection.disposed = true := by decide
  refine ⟨hd, by decide, fun es hn => ?_⟩
  obtain ⟨hw, hc⟩ := writing_after hd (by decide) hn
  obtain ⟨url, s, ht⟩ := Task.eq_writing hw
  refine ⟨by rw [ht]; rfl, fun now hm => ?_⟩
  rw [hc, show midWrite.connection.calls =
    [(0, .write 1 "a"), (0, .attempt "ws://localhost")] from rfl] at hm
  simp at hm

end Run

end BackendMonitor.Connection
