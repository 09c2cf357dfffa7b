import BackendMonitor.Proofs.Poller.Run

/-!
# The end of a poller

A poller that was torn down keeps the state that it had, and makes no more calls: what the owner
asks is refused, answers to the calls that are under way are not looked at, and the task ends at its
next turn.

* `turn_of_disposed`: all that a turn does then;
* `Run.Over`: what every step keeps once the poller was torn down;
* `Run.LeftOver`: what this comes to, and `Run.teardown_is_final`: so it is in every run.
-/

namespace BackendMonitor.Poller

variable {ρ : Type}

/-! ## The owner, the server and the task -/

section Disposed

variable {p : Poller ρ}

theorem submit_of_disposed (hd : p.disposed = true) (request : ρ) :
    p.submit request = (p, false) := by
  unfold submit
  rw [if_pos (by simp [hd])]

theorem cancel_of_disposed (hd : p.disposed = true) : p.cancel = p := by
  unfold cancel
  rw [if_pos (by simp [hd])]

theorem dispose_of_disposed (hd : p.disposed = true) : p.dispose = p := by
  unfold dispose
  rw [← hd]

theorem drop_of_disposed (hd : p.disposed = true) : p.drop = { p with held := false } := by
  unfold drop
  rw [← hd]

/-- A task that runs ends, whatever it waits for. -/
theorem turn_of_disposed (hd : p.disposed = true) (now : Nat) :
    p.turn now = if p.isRunning then some p.finish else none := by
  unfold turn isRunning
  cases p.task with
  | unstarted | ended => rfl
  | starting request => simp [hd]
  | submitting result => simp [hd]
  | tracking t => simp [hd]

end Disposed

theorem isRunning_answer (a : Answer) (p : Poller ρ) : (p.answer a).isRunning = p.isRunning := by
  unfold answer
  split
  · next ht => simp [isRunning, ht]
  · next ht => simp [isRunning, ht]
  · next ht => simp [isRunning, ht]
  · rfl

namespace Run

/-! ## What is left -/

/-- The poller of the run `r` was torn down, and `r'` is what came of it: nothing has changed but
how far the task has come, and whether the owner still holds the poller. -/
structure Over (r r' : Run ρ) : Prop where
  poller : r'.poller =
    { r.poller with disposed := true, held := r'.poller.held, task := r'.poller.task }
  accepted : r'.accepted = r.accepted
  running : r'.poller.isRunning = true → r.poller.isRunning = true

variable {server : Server} {r r' : Run ρ}

theorem Over.disposed (h : Over r r') : r'.poller.disposed = true :=
  congrArg Poller.disposed h.poller

theorem Over.state (h : Over r r') : r'.poller.state = r.poller.state := by
  rw [h.poller]

theorem Over.calls (h : Over r r') : r'.poller.calls = r.poller.calls := by
  rw [h.poller]

theorem Over.refl (hd : r.poller.disposed = true) : Over r r :=
  ⟨by rw [← hd], rfl, id⟩

theorem Over.of_teardown {e : Event ρ} (he : e.isTeardown = true) :
    Over r (r.step server e) := by
  cases e with
  | dispose | drop => exact ⟨rfl, rfl, id⟩
  | _ => cases he

/-- A step that only moves the task, without starting it. -/
theorem Over.move (h : Over r r') {p : Poller ρ}
    (hp : p = { r'.poller with held := p.held, task := p.task })
    (hr : p.isRunning = true → r'.poller.isRunning = true) : Over r { r' with poller := p } := by
  refine ⟨?_, h.accepted, fun hp => h.running (hr hp)⟩
  show p = _
  rw [hp, h.poller]

theorem Over.answer (h : Over r r') (a : Answer) :
    Over r { r' with poller := r'.poller.answer a } := by
  refine h.move ?_ fun hr => (isRunning_answer a _).symm.trans hr
  rw [answer_eq]

theorem Over.turn (h : Over r r') : Over r (r'.step server .turn) := by
  simp only [step]
  rw [turn_of_disposed h.disposed]
  split
  · exact h.move rfl fun hr => by cases hr
  · exact h

/-- What is left stays as it is, whatever happens. -/
theorem Over.step (h : Over r r') (e : Event ρ) : Over r (r'.step server e) := by
  cases e with
  | submit request =>
    simp only [Run.step]
    rw [submit_of_disposed h.disposed]
    exact h
  | cancel =>
    simp only [Run.step]
    rw [cancel_of_disposed h.disposed]
    exact h
  | dispose =>
    simp only [Run.step]
    rw [dispose_of_disposed h.disposed]
    exact h
  | drop =>
    simp only [Run.step]
    rw [drop_of_disposed h.disposed]
    exact h.move rfl id
  | submissionAnswered | pollAnswered | cancelAnswered => exact h.answer _
  | turn => exact h.turn
  | pass ms => exact ⟨h.poller, h.accepted, h.running⟩

theorem Over.after (h : Over r r') (es : List (Event ρ)) : Over r (r'.after server es) :=
  after_induction (Over r) (fun _ e h => h.step e) es h

theorem Over.not_running_of_turn (h : Over r r') (server : Server) :
    (r'.step server .turn).poller.isRunning = false := by
  simp only [Run.step]
  rw [turn_of_disposed h.disposed]
  cases hr : r'.poller.isRunning with
  | true => rfl
  | false => exact hr

/-- The task is over after its next turn, and none is started anew. -/
theorem Over.not_running_after (h : Over r r') {es : List (Event ρ)} (ht : .turn ∈ es) :
    (r'.after server es).poller.isRunning = false := by
  obtain ⟨before, rest, rfl⟩ := List.append_of_mem ht
  have hb : Over r (r'.after server before) := h.after before
  have hn := hb.not_running_of_turn server
  rw [after_append, after_cons]
  refine Bool.eq_false_iff.2 fun hr => ?_
  cases hn.symm.trans (((Over.refl hb.turn.disposed).after rest).running hr)

/-- All that is left of the run `r` in `r'`, once its poller was torn down. -/
structure LeftOver (r r' : Run ρ) : Prop where
  /-- The state stays as it was, and observers are told of nothing. -/
  state : r'.poller.state = r.poller.state
  calls : r'.poller.calls = r.poller.calls
  accepted : r'.accepted = r.accepted
  submit : ∀ request, r'.poller.submit request = (r'.poller, false)
  cancel : r'.poller.cancel = r'.poller
  dispose : r'.poller.dispose = r'.poller
  drop : r'.poller.drop = { r'.poller with held := false }
  /-- No task is started anew. -/
  running : r'.poller.isRunning = true → r.poller.isRunning = true
  /-- A task that runs ends at its next turn. -/
  turn : r'.poller.isRunning = true → ∀ now, r'.poller.turn now = some r'.poller.finish

theorem Over.leftOver (h : Over r r') : LeftOver r r' where
  state := h.state
  calls := h.calls
  accepted := h.accepted
  submit := submit_of_disposed h.disposed
  cancel := cancel_of_disposed h.disposed
  dispose := dispose_of_disposed h.disposed
  drop := drop_of_disposed h.disposed
  running := h.running
  turn hr now := by rw [turn_of_disposed h.disposed, if_pos hr]

/-- From the moment at which a poller is torn down, whatever it was doing, and whatever the owner,
the server and the task do from then on, in whatever order: its state stays as it was and observers
are told of nothing, no call is made that was not made before, no job is accepted, what the owner
asks changes nothing, and a task that runs ends at its next turn. -/
theorem teardown_is_final (server : Server) (r : Run ρ) {e : Event ρ} (he : e.isTeardown = true)
    (more : List (Event ρ)) :
    LeftOver r (r.after server (e :: more)) ∧
      (.turn ∈ more → (r.after server (e :: more)).poller.isRunning = false) := by
  have ho : Over r (r.step server e) := .of_teardown he
  exact ⟨(ho.after more).leftOver, ho.not_running_after⟩

/-- A server that has finished the job by the time of the first poll. -/
def finished : Server where
  submission := .ok "job-1"
  status _ := .ok { jobId := "job-1", status := .completed }
  cancel _ := .error ⟨.network, "reset"⟩

/-- A poller that has asked to cancel its job, with a poll under way. -/
def cancellingMidPoll : Run String :=
  (start { period := 1000, period_pos := by decide, budget := none }).after finished
    [.submit "scan", .turn, .submissionAnswered, .turn, .pass 1000, .turn, .cancel, .turn]

/-- The poll and the request to cancel are answered late, and the owner goes on asking. -/
def lateAnswers : List (Event String) :=
  [.pollAnswered, .cancel, .submit "scan", .turn, .cancelAnswered, .pass 1000, .turn, .drop, .turn]

/-- A poller that is torn down with a poll and a request to cancel under way goes on seeming to
cancel a job that is finished. -/
theorem teardown_is_final_midPoll :
    (Event.dispose : Event String).isTeardown = true ∧
      let p' := (cancellingMidPoll.after finished (.dispose :: lateAnswers)).poller
      p'.phase = .cancelling ∧
        p'.calls.map (·.1) = [1000, 1000, 0] ∧
        cancellingMidPoll.poller.isRunning = true ∧ p'.isRunning = false := by
  obtain ⟨h, ht⟩ := teardown_is_final finished cancellingMidPoll (e := .dispose) rfl lateAnswers
  refine ⟨rfl, ?_, ?_, by decide, ht (by simp [lateAnswers])⟩
  · rw [phase, h.state]
    decide
  · rw [h.calls]
    decide

end Run

end BackendMonitor.Poller
