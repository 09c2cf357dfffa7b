import BackendMonitor.Poller
import BackendMonitor.Proofs.Job

/-!
# Turns of a poller

What one turn of the task of a poller can do (`Turn`, `turn_eq_some`), with what it looked at, and
what the answer to a poll does to a poller whose job is live (`Polled`, `onPolled_of_fresh`).
Everything that holds of all runs is proved by cases on these two.
-/

namespace BackendMonitor

namespace Poller

variable {ρ : Type}

/-- The result of a poll. -/
abbrev Result := Except Failure JobSnapshot

theorem publish_of_not_disposed {p : Poller ρ} (hd : p.disposed = false) (s : PollerState) :
    p.publish s = { p with state := p.state.publish s } := by
  simp [publish, hd]

theorem calls_publish (s : PollerState) (p : Poller ρ) : (p.publish s).calls = p.calls := by
  unfold publish
  split <;> rfl

theorem cancels_publish (s : PollerState) (p : Poller ρ) : (p.publish s).cancels = p.cancels := by
  unfold publish
  split <;> rfl

theorem task_publish (s : PollerState) (p : Poller ρ) : (p.publish s).task = p.task := by
  unfold publish
  split <;> rfl

/-- The phase is the published one, or the one before, if the poller is disposed. -/
theorem phase_publish (s : PollerState) (p : Poller ρ) :
    (p.publish s).phase = s.phase ∨ (p.publish s).phase = p.phase := by
  unfold publish
  split
  · exact .inr rfl
  · exact .inl rfl

/-! ## The owner and the server -/

/-- A request to submit starts the task, or else it changes nothing. -/
theorem submit_cases (request : ρ) (p : Poller ρ) :
    (p.submit request).1 = p ∨
      p.disposed = false ∧ p.phase = .idle ∧
        (p.submit request).1 =
          { p with
            state := p.state.publish { p.state.value with phase := .submitting }
            task := .starting request } := by
  unfold submit
  split
  · exact .inl rfl
  · next h =>
    obtain ⟨hd, hp⟩ : p.disposed = false ∧ p.phase = .idle := by simpa using h
    rw [publish_of_not_disposed hd]
    exact .inr ⟨hd, hp, rfl⟩

/-- A request to cancel waits for the task, or else it changes nothing. -/
theorem cancel_cases (p : Poller ρ) :
    p.cancel = p ∨
      p.disposed = false ∧ p.phase = .polling ∧
        p.cancel = { p with cancels := p.cancels + 1 } := by
  unfold cancel
  split
  · exact .inl rfl
  · next h =>
    obtain ⟨hd, hp⟩ : p.disposed = false ∧ p.phase = .polling := by simpa using h
    exact .inr ⟨hd, hp, rfl⟩

/-- An answer changes nothing but what the task knows. -/
theorem answer_eq (a : Answer) (p : Poller ρ) :
    p.answer a = { p with task := (p.answer a).task } := by
  unfold answer
  split <;> rfl

/-! ## Turns -/

/-- What one turn of the task does at the instant `now`. -/
inductive Turn (now : Nat) (p : Poller ρ) : Poller ρ → Prop where
  | stop (hd : p.disposed = true) (hr : p.isRunning = true) : Turn now p { p with task := .ended }
  | submit {request : ρ} (hd : p.disposed = false) (ht : p.task = .starting request) :
      Turn now p
        { p with calls := (now, .submit request) :: p.calls, task := .submitting none }
  /-- The submission failed. -/
  | refused {f : Failure} (hd : p.disposed = false) (ht : p.task = .submitting (some (.error f))) :
      Turn now p
        { p with state := p.state.publish (p.state.value.fail f.message), task := .ended }
  | accepted {jobId : String} (hd : p.disposed = false)
      (ht : p.task = .submitting (some (.ok jobId))) :
      Turn now p
        { p with
          state := p.state.publish (p.state.value.accept jobId)
          task := .tracking { jobId := jobId, ticker := ⟨p.period, now + p.period⟩ } }
  /-- The owner asks to cancel what is being cancelled already. -/
  | ignore {t : Tracking} (hd : p.disposed = false) (ht : p.task = .tracking t)
      (hc : 0 < p.cancels) (ho : t.cancel.isSome = true ∨ p.phase ≠ .polling) :
      Turn now p { p with cancels := p.cancels - 1 }
  | askCancel {t : Tracking} (hd : p.disposed = false) (ht : p.task = .tracking t)
      (hc : 0 < p.cancels) (ho : t.cancel = none) (hp : p.phase = .polling) :
      Turn now p
        { p with
          cancels := p.cancels - 1
          state := p.state.publish { p.state.value with phase := .cancelling }
          calls := (now, .cancel t.jobId) :: p.calls
          task := .tracking { t with cancel := some {} } }
  /-- The request to cancel was answered, and the phase stays as it is. -/
  | cancelled {t : Tracking} {result : Except Failure Unit} (hd : p.disposed = false)
      (ht : p.task = .tracking t) (hc : p.cancels = 0) (hr : t.cancel = some ⟨some result⟩)
      (hp : result = .ok () ∨ p.phase ≠ .cancelling) :
      Turn now p { p with task := .tracking { t with cancel := none } }
  | resume {t : Tracking} {f : Failure} (hd : p.disposed = false) (ht : p.task = .tracking t)
      (hc : p.cancels = 0) (hr : t.cancel = some ⟨some (.error f)⟩) (hp : p.phase = .cancelling) :
      Turn now p
        { p with
          state := p.state.publish { p.state.value with phase := .polling }
          task := .tracking { t with cancel := none } }
  | polled {t : Tracking} {epoch : Nat} {result : Result} (hd : p.disposed = false)
      (ht : p.task = .tracking t) (hc : p.cancels = 0) (hr : t.poll = some ⟨epoch, some result⟩) :
      Turn now p (p.onPolled t epoch result)
  | poll {t : Tracking} (hd : p.disposed = false) (ht : p.task = .tracking t)
      (hc : p.cancels = 0) (hp : t.poll = none) (hn : t.ticker.due ≤ now) :
      Turn now p
        { p with
          calls := (now, .status t.jobId) :: p.calls
          task := .tracking
            { t with
              ticker := t.ticker.take now
              epochs := t.epochs.issue
              poll := some { epoch := t.epochs.issue.issued } } }

theorem Turn.of_onCancel {now : Nat} {t : Tracking} {p : Poller ρ} (hd : p.disposed = false)
    (ht : p.task = .tracking t) (hc : 0 < p.cancels) : Turn now p (p.onCancel now t) := by
  unfold onCancel
  by_cases h : t.cancel.isSome = true ∨ p.phase ≠ .polling
  · simp only
    rw [if_pos (by simpa [hd, phase] using h)]
    exact .ignore hd ht hc h
  · obtain ⟨ho, hp⟩ : t.cancel = none ∧ p.phase = .polling := by simpa using h
    simp only
    rw [if_neg (by simpa [hd, phase] using h), publish_of_not_disposed (by exact hd)]
    exact .askCancel hd ht hc ho hp

theorem Turn.of_onCancelled {now : Nat} {t : Tracking} {result : Except Failure Unit} {p : Poller ρ}
    (hd : p.disposed = false) (ht : p.task = .tracking t) (hc : p.cancels = 0)
    (hr : t.cancel = some ⟨some result⟩) : Turn now p (p.onCancelled t result) := by
  unfold onCancelled
  cases result with
  | ok _ => exact .cancelled hd ht hc hr (.inl rfl)
  | error f =>
    simp only
    by_cases hp : p.phase = .cancelling
    · rw [if_pos (by exact hp), publish_of_not_disposed (by exact hd)]
      exact .resume hd ht hc hr hp
    · rw [if_neg (by exact hp)]
      exact .cancelled hd ht hc hr (.inr hp)

theorem Turn.of_turnTracking {now : Nat} {t : Tracking} {p p' : Poller ρ}
    (hd : p.disposed = false) (ht : p.task = .tracking t)
    (h : p.turnTracking now t = some p') : Turn now p p' := by
  unfold turnTracking at h
  split at h
  · next hc => cases h; exact .of_onCancel hd ht hc
  · next hc =>
    have hc : p.cancels = 0 := by omega
    split at h
    · next hr => cases h; exact .of_onCancelled hd ht hc hr
    · next hr _ => cases h; exact .polled hd ht hc hr
    · cases h
    · next hp _ =>
      split at h
      · next hn =>
        cases h
        exact .poll hd ht hc hp (by simpa [Ticker.isDue] using hn)
      · cases h

theorem Turn.of_onSubmitted {now : Nat} {result : Except Failure String} {p : Poller ρ}
    (hd : p.disposed = false) (ht : p.task = .submitting (some result)) :
    Turn now p (p.onSubmitted now result) := by
  unfold onSubmitted
  cases result with
  | ok jobId =>
    simp only
    rw [publish_of_not_disposed hd]
    exact .accepted hd ht
  | error f =>
    simp only
    rw [publish_of_not_disposed hd]
    exact .refused hd ht

theorem turn_eq_some {now : Nat} {p p' : Poller ρ} (h : p.turn now = some p') : Turn now p p' := by
  unfold turn at h
  split at h
  · cases h
  · cases h
  · next ht =>
    cases h
    split
    · next hd => exact .stop hd (by simp [isRunning, ht])
    · next hd => exact .submit (by simpa using hd) ht
  · next result ht =>
    split at h
    · next hd => cases h; exact .stop hd (by simp [isRunning, ht])
    · next hd =>
      obtain ⟨x, rfl, rfl⟩ := Option.map_eq_some_iff.1 h
      exact .of_onSubmitted (by simpa using hd) ht
  · next t ht =>
    split at h
    · next hd => cases h; exact .stop hd (by simp [isRunning, ht])
    · next hd => exact .of_turnTracking (by simpa using hd) ht h

/-- A task that has ended, or that there never was, has nothing to do. -/
theorem turn_eq_none_of_not_running {now : Nat} {p : Poller ρ} (h : p.isRunning = false) :
    p.turn now = none := by
  unfold isRunning at h
  unfold turn
  split at h <;> simp_all

/-! ## Answers to polls -/

end Poller

namespace PollerState

/-- A state in which a job with the identifier `jobId` is followed and is not over. -/
structure Live (jobId : String) (s : PollerState) : Prop where
  phase : s.phase = .polling ∨ s.phase = .cancelling
  job : ∃ job, s.job = some job ∧ job.id = jobId ∧ job.status.isTerminal = false
  error : s.error = none

/-- The state after a snapshot that reports no end. -/
def advance (job : Job) (snapshot : JobSnapshot) (s : PollerState) : PollerState :=
  { s with job := some (job.apply snapshot).1 }

/-- The state after a snapshot that reports the end of the job. -/
def conclude (job : Job) (snapshot : JobSnapshot) (s : PollerState) : PollerState :=
  { phase := .ofStatus snapshot.status
    job := some (job.apply snapshot).1
    error := if snapshot.status = .failed then (job.apply snapshot).1.error else s.error }

theorem apply_of_live {job : Job} {snapshot : JobSnapshot} {s : PollerState}
    (hj : s.job = some job) (hl : job.status.isTerminal = false)
    (hs : snapshot.status.isTerminal = false) :
    s.apply snapshot = .unseen (s.advance job snapshot) ∨
      s.apply snapshot = .seen (s.advance job snapshot) := by
  obtain ⟨hu, -⟩ := Job.apply_of_live hl hs
  have e : job.apply snapshot = ((job.apply snapshot).1, .updated) := Prod.ext rfl hu
  unfold apply
  rw [hj]
  simp only
  rw [e]
  simp only [advance]
  split
  · exact .inl rfl
  · exact .inr rfl

theorem apply_of_end {job : Job} {snapshot : JobSnapshot} {s : PollerState}
    (hj : s.job = some job) (hl : job.status.isTerminal = false)
    (hs : snapshot.status.isTerminal = true) :
    s.apply snapshot = .final (s.conclude job snapshot) := by
  obtain ⟨hu, -⟩ := Job.apply_of_end hl hs
  have e : job.apply snapshot = ((job.apply snapshot).1, .terminal snapshot.status) :=
    Prod.ext rfl hu
  unfold apply
  rw [hj]
  simp only
  rw [e]
  rfl

end PollerState

namespace Poller

/-- What a result does to a poller that follows the job `job` as `t` says, where the poll is no
longer under way in `t`. -/
inductive Polled (t : Tracking) (job : Job) (p : Poller ρ) : Result → Poller ρ → Prop where
  | news {snapshot : JobSnapshot} (hs : snapshot.status.isTerminal = false)
      {w : Watched PollerState}
      (hw : w = p.state.amend (p.state.value.advance job snapshot) ∨
        w = p.state.publish (p.state.value.advance job snapshot)) :
      Polled t job p (.ok snapshot)
        { p with state := w, task := .tracking { t with failures := 0 } }
  | concluded {snapshot : JobSnapshot} (hs : snapshot.status.isTerminal = true) :
      Polled t job p (.ok snapshot)
        { p with state := p.state.publish (p.state.value.conclude job snapshot), task := .ended }
  | refused {f : Failure} (hf : f.isTransient = false) :
      Polled t job p (.error f)
        { p with state := p.state.publish (p.state.value.fail f.message), task := .ended }
  | lost {f : Failure} (hf : f.isTransient = true)
      (hb : p.budget.any (· ≤ countFailure t.failures) = true) :
      Polled t job p (.error f)
        { p with
          state := p.state.publish (p.state.value.fail (lostTrack (countFailure t.failures) f))
          task := .ended }
  | failed {f : Failure} (hf : f.isTransient = true)
      (hb : p.budget.any (· ≤ countFailure t.failures) = false) :
      Polled t job p (.error f)
        { p with task := .tracking { t with failures := countFailure t.failures } }

/-- Every answer that is not stale is taken. -/
theorem onPolled_of_fresh {p : Poller ρ} {t : Tracking} {epoch : Nat} {job : Job} {result : Result}
    (hd : p.disposed = false) (hj : p.state.value.job = some job)
    (hl : job.status.isTerminal = false) (he : t.epochs.applied < epoch) :
    Polled { t with poll := none, epochs := { t.epochs with applied := epoch } } job p result
      (p.onPolled t epoch result) := by
  have ha : t.epochs.accept? epoch = some { t.epochs with applied := epoch } :=
    if_neg (by omega)
  unfold onPolled
  simp only [ha]
  cases result with
  | ok snapshot =>
    simp only
    unfold onSnapshot
    simp only
    rw [if_neg (by simp [track, hd])]
    cases hs : snapshot.status.isTerminal with
    | false =>
      rcases PollerState.apply_of_live hj hl hs with h | h
      · simp only [track, h]
        exact .news hs (.inl rfl)
      · simp only [track, h]
        rw [publish_of_not_disposed (by exact hd)]
        exact .news hs (.inr rfl)
    | true =>
      simp only [track, PollerState.apply_of_end hj hl hs]
      rw [publish_of_not_disposed (by exact hd)]
      exact .concluded hs
  | error f =>
    simp only [onPollFailed]
    cases hf : f.isTransient with
    | false =>
      rw [if_pos (by rfl), publish_of_not_disposed hd]
      exact .refused hf
    | true =>
      rw [if_neg (by simp)]
      split
      · next hb =>
        rw [publish_of_not_disposed hd]
        exact .lost hf hb
      · next hb => exact .failed hf (by simpa using hb)

end Poller

end BackendMonitor
