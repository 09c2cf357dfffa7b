import BackendMonitor.Proofs.Poller.Progress

/-!
# Pollers whose owner never asks to cancel

What a poller would look like if nobody had asked it to cancel its job (`Poller.calm`): there are no
requests, no calls and no answers about that, and the job is never being cancelled. What concerns
canceling leaves this look alone, and all else does to it what it does to the poller
(`Poller.Alike`, `Poller.alike`).
-/

namespace BackendMonitor

/-! ## States -/

/-- The phase without regard to whether the job is being cancelled. -/
def PollerPhase.calm : PollerPhase → PollerPhase
  | .cancelling => .polling
  | phase => phase

theorem PollerPhase.isTerminal_calm (phase : PollerPhase) :
    phase.calm.isTerminal = phase.isTerminal := by
  cases phase <;> rfl

/-- A terminal phase looks like itself only. -/
theorem PollerPhase.eq_of_calm_eq {phase phase' : PollerPhase} (h : phase.calm = phase'.calm)
    (ht : phase.isTerminal = true) : phase = phase' := by
  cases phase <;> cases phase' <;>
    first | rfl | exact absurd ht Bool.false_ne_true | cases h

namespace PollerState

/-- The state without regard to whether the job is being cancelled. -/
def calm (s : PollerState) : PollerState :=
  { s with phase := s.phase.calm }

/-- What a snapshot does, without regard to whether the job is being cancelled. -/
def Change.calm : Change → Change
  | .none => .none
  | .unseen s => .unseen s.calm
  | .seen s => .seen s.calm
  | .final s => .final s.calm

@[simp] theorem calm_calm (s : PollerState) : s.calm.calm = s.calm := by
  cases h : s.phase <;> simp [calm, PollerPhase.calm, h]

@[simp] theorem job_calm (s : PollerState) : s.calm.job = s.job := rfl

@[simp] theorem calm_fail (reason : String) (s : PollerState) :
    (s.calm.fail reason).calm = (s.fail reason).calm := rfl

@[simp] theorem calm_accept (jobId : String) (s : PollerState) :
    (s.calm.accept jobId).calm = (s.accept jobId).calm := rfl

theorem calm_ofStatus (s : JobStatus) : (PollerPhase.ofStatus s).calm = .ofStatus s := by
  cases s <;> rfl

/-- A snapshot does to a job what it does, whether or not the job is being cancelled. -/
theorem apply_calm (snapshot : JobSnapshot) (s : PollerState) :
    s.calm.apply snapshot = (s.apply snapshot).calm := by
  unfold apply
  rw [job_calm]
  cases s.job with
  | none => rfl
  | some job =>
    simp only
    rcases job.apply snapshot with ⟨after, _ | _ | status⟩
    · rfl
    · simp only
      split <;> rfl
    · simp only [Change.calm, calm, calm_ofStatus]

end PollerState

/-! ## Pollers -/

namespace Poller

variable {ρ : Type}

/-- The task without its request to cancel. -/
def Task.calm : Task ρ → Task ρ
  | .tracking t => .tracking { t with cancel := none }
  | task => task

/-- The poller as it looks but for all that concerns canceling, and for what observers were told. -/
def calm (p : Poller ρ) : Poller ρ :=
  { p with
    state := ⟨p.state.value.calm, []⟩
    cancels := 0
    task := p.task.calm
    calls := p.calls.filter (!·.2.isCancel) }

@[simp] theorem calm_calm (p : Poller ρ) : p.calm.calm = p.calm := by
  cases h : p.task <;> simp [calm, Task.calm, h]

theorem calm_publish {s s' : PollerState} (h : s.calm = s'.calm) (p : Poller ρ) :
    (p.calm.publish s').calm = (p.publish s).calm := by
  unfold publish
  show (if p.disposed = true then p.calm else _).calm = _
  split
  · exact p.calm_calm
  · cases ht : p.task <;> simp [calm, Watched.publish, Task.calm, ht, h]

/-- Observers are told of what looks the same. -/
theorem calm_publish_eq_calm {s : PollerState} {p : Poller ρ} (h : s.calm = p.state.value.calm) :
    (p.publish s).calm = p.calm := by
  unfold publish
  split
  · rfl
  · simp [calm, Watched.publish, h]

theorem finish_congr {p q : Poller ρ} (h : p.calm = q.calm) : p.finish.calm = q.finish.calm :=
  congrArg (fun p : Poller ρ => { p with task := .ended }) h

theorem track_congr {p q : Poller ρ} (h : p.calm = q.calm) (t : Tracking) :
    (p.track { t with cancel := none }).calm = (q.track t).calm :=
  congrArg (fun p : Poller ρ => { p with task := .tracking { t with cancel := none } }) h

theorem calm_amend (s : PollerState) (p : Poller ρ) :
    ({ p.calm with state := p.calm.state.amend s.calm } : Poller ρ).calm =
      ({ p with state := p.state.amend s } : Poller ρ).calm := by
  cases ht : p.task <;> simp [calm, Watched.amend, Task.calm, ht]

theorem calm_onSubmitted (now : Nat) (result : Except Failure String) (p : Poller ρ) :
    (p.calm.onSubmitted now result).calm = (p.onSubmitted now result).calm := by
  cases result with
  | error f => exact finish_congr (calm_publish (PollerState.calm_fail _ _).symm p)
  | ok jobId =>
    exact track_congr (calm_publish (PollerState.calm_accept _ _).symm p)
      { jobId := jobId, ticker := ⟨p.period, now + p.period⟩ }

/-! ## Polls -/

theorem calm_onSnapshot (t : Tracking) (snapshot : JobSnapshot) (p : Poller ρ) :
    (p.calm.onSnapshot { t with cancel := none } snapshot).calm =
      (p.onSnapshot t snapshot).calm := by
  have ha : (p.calm.track { t with cancel := none, failures := 0 }).state.value.apply snapshot =
      (p.state.value.apply snapshot).calm := p.state.value.apply_calm snapshot
  have hb : (p.track { t with failures := 0 }).state.value = p.state.value := rfl
  unfold onSnapshot
  simp only [ha, hb]
  by_cases hd : p.disposed = true
  · rw [if_pos (by exact hd), if_pos (by exact hd)]
    exact track_congr p.calm_calm { t with failures := 0 }
  · rw [if_neg (by exact hd), if_neg (by exact hd)]
    cases p.state.value.apply snapshot with
    | none => exact track_congr p.calm_calm { t with failures := 0 }
    | unseen s => exact calm_amend s (p.track { t with failures := 0 })
    | seen s => exact calm_publish s.calm_calm.symm (p.track { t with failures := 0 })
    | final s =>
      exact finish_congr (calm_publish s.calm_calm.symm (p.track { t with failures := 0 }))

theorem calm_onPollFailed (t : Tracking) (f : Failure) (p : Poller ρ) :
    (p.calm.onPollFailed { t with cancel := none } f).calm = (p.onPollFailed t f).calm := by
  unfold onPollFailed
  split
  · exact finish_congr (calm_publish (PollerState.calm_fail _ _).symm p)
  · simp only
    by_cases hb : p.budget.any (· ≤ countFailure t.failures) = true
    · rw [if_pos (by exact hb), if_pos hb]
      exact finish_congr (calm_publish (PollerState.calm_fail _ _).symm p)
    · rw [if_neg (by exact hb), if_neg hb]
      exact track_congr p.calm_calm { t with failures := countFailure t.failures }

theorem calm_onPolled (t : Tracking) (epoch : Nat) (result : Result) (p : Poller ρ) :
    (p.calm.onPolled { t with cancel := none } epoch result).calm =
      (p.onPolled t epoch result).calm := by
  unfold onPolled
  simp only
  cases t.epochs.accept? epoch with
  | none => exact track_congr p.calm_calm { t with poll := none }
  | some epochs =>
    cases result with
    | ok snapshot => exact calm_onSnapshot { t with poll := none, epochs := epochs } snapshot p
    | error f => exact calm_onPollFailed { t with poll := none, epochs := epochs } f p

theorem calm_onTick (now : Nat) (t : Tracking) (p : Poller ρ) :
    (p.calm.onTick now { t with cancel := none }).calm = (p.onTick now t).calm := by
  have hc : (p.calm.call now (.status t.jobId)).calm = (p.call now (.status t.jobId)).calm := by
    cases ht : p.task <;> simp [calm, call, Task.calm, ht, Call.isCancel]
  exact track_congr hc
    { t with
      ticker := t.ticker.take now
      epochs := t.epochs.issue
      poll := some { epoch := t.epochs.issue.issued } }

/-! ## Canceling -/

theorem calm_onCancel {t : Tracking} {p : Poller ρ} (now : Nat) (ht : p.task = .tracking t) :
    (p.onCancel now t).calm = p.calm := by
  unfold onCancel
  simp only
  split
  · rfl
  · next h =>
    have hp : p.state.value.phase = .polling := by simp_all [phase]
    have hc : ∀ q : Poller ρ, q.task = .tracking t →
        ((q.call now (.cancel t.jobId)).track { t with cancel := some {} }).calm = q.calm := by
      intro q hq
      simp [calm, call, track, Task.calm, hq, Call.isCancel]
    have ht' : ∀ s, ({ p with cancels := p.cancels - 1 }.publish s).task = .tracking t :=
      fun s => (task_publish s _).trans ht
    rw [hc _ (ht' _), calm_publish_eq_calm (by simp [PollerState.calm, PollerPhase.calm, hp])]
    rfl

theorem calm_onCancelled {t : Tracking} {p : Poller ρ} (result : Except Failure Unit)
    (ht : p.task = .tracking t) : (p.onCancelled t result).calm = p.calm := by
  have hp : (p.track { t with cancel := none }).calm = p.calm := by
    simp [calm, track, Task.calm, ht]
  unfold onCancelled
  cases result with
  | ok _ => exact hp
  | error f =>
    simp only
    split
    · next h =>
      have h : p.state.value.phase = .cancelling := h
      rw [calm_publish_eq_calm, hp]
      show PollerState.calm { p.state.value with phase := .polling } = p.state.value.calm
      simp [PollerState.calm, PollerPhase.calm, h]
    · exact hp

/-! ## Calls -/

theorem calls_onCancel (now : Nat) (t : Tracking) (p : Poller ρ) :
    (p.onCancel now t).calls = p.calls ∨
      ∃ jobId, (p.onCancel now t).calls = (now, .cancel jobId) :: p.calls := by
  unfold onCancel
  simp only
  split
  · exact .inl rfl
  · exact .inr ⟨t.jobId, congrArg ((now, Call.cancel t.jobId) :: ·) (calls_publish _ _)⟩

theorem calls_onCancelled (t : Tracking) (result : Except Failure Unit) (p : Poller ρ) :
    (p.onCancelled t result).calls = p.calls := by
  unfold onCancelled
  cases result with
  | ok _ => rfl
  | error f =>
    simp only
    split
    · exact calls_publish _ _
    · rfl

theorem calls_onPolled (t : Tracking) (epoch : Nat) (result : Result) (p : Poller ρ) :
    (p.onPolled t epoch result).calls = p.calls := by
  unfold onPolled
  simp only
  cases t.epochs.accept? epoch with
  | none => rfl
  | some epochs =>
    cases result with
    | ok snapshot =>
      simp only [onSnapshot]
      split
      · rfl
      · split
        · rfl
        · rfl
        · exact calls_publish _ _
        · exact calls_publish _ _
    | error f =>
      simp only [onPollFailed]
      split
      · exact calls_publish _ _
      · split
        · exact calls_publish _ _
        · rfl

theorem calls_onSubmitted (now : Nat) (result : Except Failure String) (p : Poller ρ) :
    (p.onSubmitted now result).calls = p.calls := by
  unfold onSubmitted
  cases result <;> exact calls_publish _ _

/-! ## Turns -/

/-- A turn of a poller as it is seen: not at all, or as what the same turn makes of the look of the
poller. -/
inductive Alike (now : Nat) (p : Poller ρ) : Prop where
  /-- The turn has to do with canceling. -/
  | unseen {p' : Poller ρ} (h : p.turn now = some p') (hc : p'.calm = p.calm)
      (hm : p'.calls = p.calls ∨ ∃ jobId, p'.calls = (now, .cancel jobId) :: p.calls)
  | none (h : p.turn now = none) (h' : p.calm.turn now = none)
  | seen {p' q' : Poller ρ} {made : List (Nat × Call ρ)} (h : p.turn now = some p')
      (h' : p.calm.turn now = some q') (hc : q'.calm = p'.calm)
      (hp : p'.calls = made ++ p.calls) (hq : q'.calls = made ++ p.calm.calls)
      (hm : ∀ c ∈ made, c.2.isCancel = false)

theorem Alike.of_disposed {p : Poller ρ} {now : Nat} (h : p.turn now = some p.finish)
    (h' : p.calm.turn now = some p.calm.finish) : Alike now p :=
  .seen h h' (finish_congr p.calm_calm) (List.nil_append p.calls).symm
    (List.nil_append p.calm.calls).symm fun _ hc => absurd hc List.not_mem_nil

theorem alike_of_tracking {t : Tracking} {p : Poller ρ} (now : Nat) (hd : p.disposed = false)
    (ht : p.task = .tracking t) : Alike now p := by
  have hturn := turn_of_tracking now hd ht
  by_cases hc : 0 < p.cancels
  · rw [turnTracking, if_pos hc] at hturn
    exact .unseen hturn (calm_onCancel now ht) (calls_onCancel now t p)
  · by_cases hr : ∃ result, t.cancel = some ⟨some result⟩
    · obtain ⟨result, hr⟩ := hr
      rw [turnTracking, if_neg hc, hr] at hturn
      exact .unseen hturn (calm_onCancelled result ht) (.inl (calls_onCancelled t result p))
    · have hclear : Clear p := by
        refine ⟨by omega, fun t' ht' result hr' => hr ⟨result, ?_⟩⟩
        cases ht.symm.trans ht'
        exact hr'
      have hclear' : Clear p.calm := by
        refine ⟨rfl, fun t' ht' result hr' => ?_⟩
        cases (congrArg Task.calm ht).symm.trans ht'
        cases hr'
      have h := @turn_of_clear _ now _ _ hd ht hclear
      have h' := @turn_of_clear _ now _ p.calm hd (congrArg Task.calm ht) hclear'
      simp only at h'
      rcases hp : t.poll with _ | ⟨epoch, _ | result⟩
      · rw [hp] at h h'
        simp only at h h'
        by_cases hn : t.ticker.isDue now = true
        · rw [if_pos hn] at h h'
          have hm : (p.onTick now t).calls = [(now, .status t.jobId)] ++ p.calls := rfl
          refine .seen h h' (hp ▸ calm_onTick now t p) hm rfl fun c hc => ?_
          rw [List.mem_singleton.1 hc]
          rfl
        · rw [if_neg hn] at h h'
          exact .none h h'
      · rw [hp] at h h'
        exact .none h h'
      · rw [hp] at h h'
        refine .seen h h' (hp ▸ calm_onPolled t epoch result p) ?_ ?_ fun _ hc =>
          absurd hc List.not_mem_nil
        · exact calls_onPolled _ _ _ _
        · exact calls_onPolled _ _ _ _

theorem alike (now : Nat) (p : Poller ρ) : Alike now p := by
  cases ht : p.task with
  | unstarted | ended =>
    exact .none (turn_eq_none_of_not_running (by simp [isRunning, ht]))
      (turn_eq_none_of_not_running (by simp [isRunning, calm, Task.calm, ht]))
  | starting request =>
    have ht' : p.calm.task = .starting request := congrArg Task.calm ht
    by_cases hd : p.disposed = true
    · exact .of_disposed (by rw [turn, ht]; exact congrArg some (if_pos hd))
        (by rw [turn, ht']; exact congrArg some (if_pos hd))
    · have h : p.turn now =
          some { p.call now (.submit request) with task := .submitting none } := by
        rw [turn, ht]; exact congrArg some (if_neg hd)
      have h' : p.calm.turn now =
          some { p.calm.call now (.submit request) with task := .submitting none } := by
        rw [turn, ht']; exact congrArg some (if_neg hd)
      have hm : (p.call now (.submit request)).calls = [(now, .submit request)] ++ p.calls := rfl
      refine .seen h h' ?_ hm rfl fun c hc => ?_
      · simp [calm, call, Task.calm, Call.isCancel]
      · rw [List.mem_singleton.1 hc]
        rfl
  | submitting result =>
    have ht' : p.calm.task = .submitting result := congrArg Task.calm ht
    by_cases hd : p.disposed = true
    · exact .of_disposed (by rw [turn, ht]; exact if_pos hd) (by rw [turn, ht']; exact if_pos hd)
    · have h : p.turn now = result.map fun r => p.onSubmitted now r := by
        rw [turn, ht]; exact if_neg hd
      have h' : p.calm.turn now = result.map fun r => p.calm.onSubmitted now r := by
        rw [turn, ht']; exact if_neg hd
      cases result with
      | none => exact .none h h'
      | some result =>
        refine .seen h h' (calm_onSubmitted now result p) ?_ ?_ fun _ hc =>
          absurd hc List.not_mem_nil
        · exact calls_onSubmitted _ _ _
        · exact calls_onSubmitted _ _ _
  | tracking t =>
    by_cases hd : p.disposed = true
    · have ht' : p.calm.task = .tracking { t with cancel := none } := congrArg Task.calm ht
      exact .of_disposed (by rw [turn, ht]; exact if_pos hd) (by rw [turn, ht']; exact if_pos hd)
    · exact alike_of_tracking now (by simpa using hd) ht

/-! ## Answers -/

/-- Whether an answer is one to a request to cancel. -/
def Answer.isCancel : Answer → Bool
  | .cancelled _ => true
  | _ => false

theorem calm_answer {a : Answer} (ha : a.isCancel = false) (p : Poller ρ) :
    (p.calm.answer a).calm = (p.answer a).calm := by
  cases a with
  | submitted result =>
    rcases ht : p.task with _ | _ | (_ | _) | _ | _ <;> simp [answer, calm, Task.calm, ht]
  | status result =>
    cases ht : p.task <;> simp [answer, calm, Task.calm, ht]
  | cancelled result => cases ha

/-- The answer to a request to cancel is not seen. -/
theorem calm_answer_of_isCancel {a : Answer} (ha : a.isCancel = true) (p : Poller ρ) :
    (p.answer a).calm = p.calm := by
  cases a with
  | cancelled result => cases ht : p.task <;> simp [answer, calm, Task.calm, ht]
  | _ => cases ha

/-! ## The owner -/

theorem calm_submit (request : ρ) (p : Poller ρ) :
    (p.calm.submit request).1.calm = (p.submit request).1.calm := by
  have hi : p.calm.phase = .idle ↔ p.phase = .idle := by
    show p.state.value.phase.calm = .idle ↔ p.state.value.phase = .idle
    cases p.state.value.phase <;> decide
  by_cases hs : p.disposed = true ∨ p.phase ≠ .idle
  · have hs' : p.calm.disposed = true ∨ p.calm.phase ≠ .idle := by rwa [Ne, hi]
    rw [submit, if_pos (by simpa using hs'), submit, if_pos (by simpa using hs)]
    exact p.calm_calm
  · have hs' : ¬(p.calm.disposed = true ∨ p.calm.phase ≠ .idle) := by rwa [Ne, hi]
    rw [submit, if_neg (by simpa using hs'), submit, if_neg (by simpa using hs)]
    exact congrArg (fun p : Poller ρ => { p with task := .starting request })
      (calm_publish (s := { p.state.value with phase := .submitting }) rfl p)

/-- To ask to cancel is not seen. -/
theorem calm_cancel (p : Poller ρ) : p.cancel.calm = p.calm := by
  unfold cancel
  split <;> rfl

end Poller

end BackendMonitor
