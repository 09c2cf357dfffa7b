import BackendMonitor.Proofs.Poller.Run
import BackendMonitor.Proofs.Watched

/-!
# Phase, job and error of a poller

The state that observers see is written by the owner, by the answer to the submission, by the owner
asking to cancel and the answer to that, and by polls. It is coherent all the same:

* `PollerState.Coherent`: what phase, job and error of a state have to do with each other and with
  the answer to the submission;
* `PollerPhase.precedes`: which phases may be published one after the other;
* `Aligned`: what the task knows of the state that it writes to. This is what every step keeps, and
  all else follows from it;
* `Run.Consistent`: what this comes to, and `Run.states_in_order_and_coherent`: so it is in every run.
-/

namespace BackendMonitor

/-! ## Phases -/

namespace PollerPhase

/-- The phases that a phase can go over to. -/
def successors : PollerPhase → List PollerPhase
  | .idle => [.submitting]
  | .submitting => [.polling, .failed]
  | .polling => [.cancelling, .completed, .failed, .cancelled]
  | .cancelling => [.polling, .completed, .failed, .cancelled]
  | .completed | .failed | .cancelled => []

/-- Whether the state published after one in the phase `earlier` may be in the phase `later`: the
phase goes over to another one, or there is news of a job that is followed. -/
def precedes (earlier later : PollerPhase) : Prop :=
  later ∈ earlier.successors ∨ later = earlier ∧ (earlier = .polling ∨ earlier = .cancelling)

instance (earlier later : PollerPhase) : Decidable (earlier.precedes later) :=
  inferInstanceAs (Decidable (_ ∨ _))

end PollerPhase

/-! ## States -/

namespace PollerState

/-- What belongs together in a state, if `reply` is the answer to the submission. -/
structure Coherent (reply : Except Failure String) (s : PollerState) : Prop where
  early : s.phase = .idle ∨ s.phase = .submitting → s.job = none
  tracked : s.phase = .polling ∨ s.phase = .cancelling ∨ s.phase = .completed ∨
    s.phase = .cancelled → s.job.isSome = true
  jobId : ∀ job ∈ s.job, reply = .ok job.id
  error_iff : s.error.isSome = true ↔ s.phase = .failed
  completed_iff : s.phase = .completed ↔ ∃ job ∈ s.job, job.status = .completed
  cancelled_iff : s.phase = .cancelled ↔ ∃ job ∈ s.job, job.status = .cancelled
  failed : ∀ job ∈ s.job, job.status = .failed → s.phase = .failed ∧ s.error = job.error
  live : s.phase = .polling ∨ s.phase = .cancelling →
    ∀ job ∈ s.job, job.status = .pending ∨ job.status = .running

theorem coherent_idle (reply : Except Failure String) : Coherent reply {} := by
  constructor <;> simp

theorem coherent_submitting (reply : Except Failure String) :
    Coherent reply { phase := .submitting } := by
  constructor <;> simp

/-- The submission was refused. -/
theorem coherent_refused (reply : Except Failure String) (reason : String) :
    Coherent reply (fail reason { phase := .submitting }) := by
  constructor <;> simp [fail]

/-- What belongs together in a state that has a job. -/
theorem coherent_of_job {s : PollerState} {job : Job} (hj : s.job = some job)
    (hp : s.phase ≠ .idle ∧ s.phase ≠ .submitting) (he : s.error.isSome = true ↔ s.phase = .failed)
    (hc : s.phase = .completed ↔ job.status = .completed)
    (hx : s.phase = .cancelled ↔ job.status = .cancelled)
    (hf : job.status = .failed → s.phase = .failed ∧ s.error = job.error)
    (hl : s.phase = .polling ∨ s.phase = .cancelling →
      job.status = .pending ∨ job.status = .running) :
    s.Coherent (.ok job.id) := by
  have all : ∀ {P : Job → Prop}, P job → ∀ job' ∈ s.job, P job' := by
    intro P h job' hj'
    rwa [← Option.some.inj (hj.symm.trans hj')]
  have any : ∀ P : Job → Prop, P job ↔ ∃ job' ∈ s.job, P job' := by
    intro P
    refine ⟨fun h => ⟨job, hj, h⟩, ?_⟩
    rintro ⟨job', hj', h⟩
    rwa [Option.some.inj (hj.symm.trans hj')]
  refine ⟨fun h => ?_, fun _ => by rw [hj]; rfl, all rfl, he,
    hc.trans (any fun job => job.status = .completed),
    hx.trans (any fun job => job.status = .cancelled), all hf, fun h => all (hl h)⟩
  rcases h with h | h
  · exact absurd h hp.1
  · exact absurd h hp.2

theorem Live.coherent {jobId : String} {s : PollerState} (h : s.Live jobId) :
    s.Coherent (.ok jobId) := by
  obtain ⟨hp, ⟨job, hj, rfl, hl⟩, he⟩ := h
  have hk : job.status = .pending ∨ job.status = .running := by
    revert hl
    cases job.status <;> decide
  refine coherent_of_job hj ?_ ?_ ?_ ?_ ?_ fun _ => hk
  · rcases hp with hp | hp <;> rw [hp] <;> decide
  · rcases hp with hp | hp <;> rw [hp, he] <;> decide
  · rcases hp with hp | hp <;> rcases hk with hk | hk <;> rw [hp, hk] <;> decide
  · rcases hp with hp | hp <;> rcases hk with hk | hk <;> rw [hp, hk] <;> decide
  · intro hf
    rw [hf] at hl
    cases hl

/-- Polling was given up while the job was live. -/
theorem Live.coherent_fail {jobId : String} {s : PollerState} (h : s.Live jobId)
    (reason : String) : (s.fail reason).Coherent (.ok jobId) := by
  obtain ⟨-, ⟨job, hj, rfl, hl⟩, -⟩ := h
  have live : ∀ {k : JobStatus}, k.isTerminal = true → job.status ≠ k := by
    rintro k hk rfl
    cases hl.symm.trans hk
  have hp : (s.fail reason).phase = .failed := rfl
  refine coherent_of_job (s := s.fail reason) hj ?_ ⟨fun _ => hp, fun _ => rfl⟩ ?_ ?_ ?_ ?_
  · rw [hp]; decide
  · exact ⟨fun h => (by cases h), fun h => absurd h (live rfl)⟩
  · exact ⟨fun h => (by cases h), fun h => absurd h (live rfl)⟩
  · exact fun h => absurd h (live rfl)
  · rintro (h | h) <;> cases h

theorem Live.coherent_conclude {jobId : String} {s : PollerState} {job : Job}
    {snapshot : JobSnapshot} (h : s.Live jobId) (hj : s.job = some job)
    (hs : snapshot.status.isTerminal = true) :
    (s.conclude job snapshot).Coherent (.ok jobId) := by
  obtain ⟨-, ⟨job', hj', rfl, hl⟩, he⟩ := h
  obtain rfl : job' = job := Option.some.inj (hj'.symm.trans hj)
  obtain ⟨-, ht, hf⟩ := Job.apply_of_end hl hs
  rw [← Job.id_apply job' snapshot]
  -- The status with which the job ends is the one that the snapshot reports.
  have hp : (s.conclude job' snapshot).phase = .ofStatus snapshot.status := rfl
  have hr : (s.conclude job' snapshot).error =
    if snapshot.status = .failed then (job'.apply snapshot).1.error else s.error := rfl
  refine coherent_of_job (s := s.conclude job' snapshot) rfl ?_ ?_ ?_ ?_ ?_ ?_
  · rw [hp]
    cases snapshot.status <;> decide
  · rw [hp, hr, he]
    cases hk : snapshot.status with
    | failed => rw [if_pos rfl, hf hk]; exact ⟨fun _ => rfl, fun _ => rfl⟩
    | completed | cancelled => exact ⟨fun h => (by cases h), fun h => (by cases h)⟩
    | pending | running => rw [hk] at hs; cases hs
  · rw [hp, ht]
    cases snapshot.status <;> decide
  · rw [hp, ht]
    cases snapshot.status <;> decide
  · intro hk
    rw [ht] at hk
    rw [hp, hr, hk]
    exact ⟨rfl, if_pos rfl⟩
  · rw [hp, ht]
    revert hs
    cases snapshot.status <;> decide

theorem Live.advance {jobId : String} {s : PollerState} {job : Job} {snapshot : JobSnapshot}
    (h : s.Live jobId) (hj : s.job = some job) (hs : snapshot.status.isTerminal = false) :
    (s.advance job snapshot).Live jobId := by
  obtain ⟨hp, ⟨job', hj', rfl, hl⟩, he⟩ := h
  obtain rfl : job' = job := Option.some.inj (hj'.symm.trans hj)
  exact ⟨hp, ⟨_, rfl, Job.id_apply _ _, (Job.apply_of_live hl hs).2⟩, he⟩

/-- Asking to cancel, and failing to, only changes the phase. -/
theorem Live.setPhase {jobId : String} {s : PollerState} (h : s.Live jobId) {phase : PollerPhase}
    (hp : phase = .polling ∨ phase = .cancelling) : Live jobId { s with phase := phase } :=
  ⟨hp, h.job, h.error⟩

end PollerState

namespace Poller

variable {ρ : Type}

/-! ## What observers are told -/

/-- The phases that observers saw, newest first; the first one is that of a new poller. -/
def phases (w : Watched PollerState) : List PollerPhase :=
  w.seen (·.phase) .idle

/-- Observers saw phases that could follow one another, and the present one last. -/
def InOrder (w : Watched PollerState) : Prop :=
  w.InOrder (·.phase) .idle PollerPhase.precedes

/-- A change of the state that observers may see: a job that is known stays known. -/
inductive Told (w : Watched PollerState) : Watched PollerState → Prop where
  | same : Told w w
  | amended {s : PollerState} (hp : s.phase = w.value.phase)
      (hj : w.value.job.isSome = true → s.job.isSome = true) : Told w (w.amend s)
  | published {s : PollerState} (hp : w.value.phase.precedes s.phase)
      (hj : w.value.job.isSome = true → s.job.isSome = true) : Told w (w.publish s)

theorem Told.inOrder {w w' : Watched PollerState} (h : Told w w') (hw : InOrder w) :
    InOrder w' := by
  cases h with
  | same => exact hw
  | amended hp _ => exact hw.amend hp
  | published hp _ => exact hw.publish hp

theorem Told.isSome_job {w w' : Watched PollerState} (h : Told w w')
    (hj : w.value.job.isSome = true) : w'.value.job.isSome = true := by
  cases h with
  | same => exact hj
  | amended _ h => exact h hj
  | published _ h => exact h hj

/-! ## The task and the state -/

/-- How the number of polls made, and the answer to the one under way, belong to what the task
knows. -/
structure InStep (server : Server) (polls : Nat) (t : Tracking) : Prop where
  issued : t.epochs.issued = polls
  idle : t.poll = none → t.epochs.applied = polls
  busy : ∀ f ∈ t.poll, f.epoch = polls ∧ polls = t.epochs.applied + 1 ∧
    ∀ x ∈ f.result, x = server.status polls

/-- What the task knows of the state that it writes to. -/
def Aligned (server : Server) (p : Poller ρ) : Prop :=
  match p.task with
  | .unstarted => p.state.value = {} ∧ p.polls = 0
  | .starting _ => p.state.value = { phase := .submitting } ∧ p.polls = 0
  | .submitting result =>
    p.state.value = { phase := .submitting } ∧ p.polls = 0 ∧ ∀ x ∈ result, x = server.submission
  | .tracking t =>
    p.state.value.Live t.jobId ∧ server.submission = .ok t.jobId ∧ InStep server p.polls t
  | .ended => p.state.value.Coherent server.submission ∧ p.phase ≠ .idle

theorem Aligned.coherent {server : Server} {p : Poller ρ} (h : Aligned server p) :
    p.state.value.Coherent server.submission := by
  unfold Aligned at h
  split at h
  · rw [h.1]; exact PollerState.coherent_idle _
  · rw [h.1]; exact PollerState.coherent_submitting _
  · rw [h.1]; exact PollerState.coherent_submitting _
  · rw [h.2.1]; exact h.1.coherent
  · exact h.1

/-- Only a task that there never was leaves the poller idle. -/
theorem Aligned.phase_ne_idle {server : Server} {p : Poller ρ} (h : Aligned server p)
    (ht : p.task ≠ .unstarted) : p.phase ≠ .idle := by
  unfold Aligned at h
  split at h
  · next hu => exact absurd hu ht
  · simp [phase, h.1]
  · simp [phase, h.1]
  · rcases h.1.phase with hp | hp <;> simp [phase, hp]
  · exact h.2

theorem Aligned.submitting {server : Server} {p : Poller ρ}
    {result : Option (Except Failure String)} (h : Aligned server p)
    (ht : p.task = .submitting result) :
    p.state.value = { phase := .submitting } ∧ p.polls = 0 ∧
      ∀ x ∈ result, x = server.submission := by
  simpa only [Aligned, ht] using h

theorem Aligned.tracking {server : Server} {p : Poller ρ} {t : Tracking} (h : Aligned server p)
    (ht : p.task = .tracking t) :
    p.state.value.Live t.jobId ∧ server.submission = .ok t.jobId ∧ InStep server p.polls t := by
  simpa only [Aligned, ht] using h

theorem InStep.answered {server : Server} {polls : Nat} {t : Tracking} (h : InStep server polls t) :
    InStep server polls
      { t with poll := t.poll.map fun f => { f with result := some (server.status polls) } } := by
  refine ⟨h.issued, fun hp => h.idle (by simpa using hp), fun f hf => ?_⟩
  obtain ⟨f', hf', rfl⟩ := Option.map_eq_some_iff.1 hf
  obtain ⟨he, ha, -⟩ := h.busy f' hf'
  exact ⟨he, ha, fun x hx => (Option.some.inj hx).symm⟩

/-- The answer that the task looks at is that of the last poll, and it is not stale. -/
theorem InStep.fresh {server : Server} {polls epoch : Nat} {t : Tracking} {result : Result}
    (h : InStep server polls t) (hr : t.poll = some ⟨epoch, some result⟩) :
    epoch = polls ∧ polls = t.epochs.applied + 1 ∧ result = server.status polls := by
  obtain ⟨he, ha, hx⟩ := h.busy _ hr
  exact ⟨he, ha, hx _ rfl⟩

theorem InStep.taken {server : Server} {polls epoch : Nat} {t : Tracking} {n : UInt32}
    (h : InStep server polls t) (he : epoch = polls) :
    InStep server polls
      { t with poll := none, epochs := { t.epochs with applied := epoch }, failures := n } :=
  ⟨h.issued, fun _ => he, fun f hf => (by cases hf)⟩

/-! ## Turns -/

/-- What the answer to a poll does keeps the task and the state together. -/
theorem Polled.aligned {server : Server} {t : Tracking} {job : Job} {result : Result}
    {p p' : Poller ρ} (h : Polled t job p result p') (hl : p.state.value.Live t.jobId)
    (hj : p.state.value.job = some job) (hs : server.submission = .ok t.jobId)
    (hi : ∀ n, InStep server p.polls { t with failures := n }) :
    Aligned server p' ∧ Told p.state p'.state := by
  have hp : ∀ next, (∀ phase, phase = .polling ∨ phase = .cancelling →
      PollerPhase.precedes phase next) → p.state.value.phase.precedes next :=
    fun next h => h _ hl.phase
  cases h with
  | @news snapshot ht w hw =>
    have hl' := hl.advance hj ht
    rcases hw with rfl | rfl
    · exact ⟨⟨hl', hs, hi 0⟩, .amended rfl fun _ => rfl⟩
    · exact ⟨⟨hl', hs, hi 0⟩, .published (.inr ⟨rfl, hl.phase⟩) fun _ => rfl⟩
  | @concluded snapshot ht =>
    have hc := hl.coherent_conclude hj ht
    have ho : ∀ phase, phase = .polling ∨ phase = .cancelling →
        PollerPhase.precedes phase (.ofStatus snapshot.status) := by
      rintro _ (rfl | rfl) <;> cases snapshot.status <;> decide
    refine ⟨⟨hs ▸ hc, ?_⟩, .published (hp _ ho) fun _ => rfl⟩
    simp only [phase, Watched.value_publish, PollerState.conclude]
    cases snapshot.status <;> decide
  | refused =>
    refine ⟨⟨hs ▸ hl.coherent_fail _, by simp [phase, PollerState.fail]⟩, .published (hp _ ?_) id⟩
    rintro _ (rfl | rfl) <;> simp [PollerState.fail, PollerPhase.precedes, PollerPhase.successors]
  | lost =>
    refine ⟨⟨hs ▸ hl.coherent_fail _, by simp [phase, PollerState.fail]⟩, .published (hp _ ?_) id⟩
    rintro _ (rfl | rfl) <;> simp [PollerState.fail, PollerPhase.precedes, PollerPhase.successors]
  | failed => exact ⟨⟨hl, hs, hi _⟩, .same⟩

/-- The answer to a poll that the task looks at is taken. -/
theorem Aligned.polled {server : Server} {p : Poller ρ} {t : Tracking} {epoch : Nat}
    {result : Result} (h : Aligned server p) (hd : p.disposed = false) (ht : p.task = .tracking t)
    (hr : t.poll = some ⟨epoch, some result⟩) :
    ∃ job, p.state.value.job = some job ∧
      Polled { t with poll := none, epochs := { t.epochs with applied := p.polls } } job p
        (server.status p.polls) (p.onPolled t epoch result) := by
  obtain ⟨hl, -, hi⟩ := h.tracking ht
  obtain ⟨job, hj, -, hk⟩ := hl.job
  obtain ⟨rfl, ha, rfl⟩ := hi.fresh hr
  exact ⟨job, hj, onPolled_of_fresh hd hj hk (by omega)⟩

/-- A turn keeps the task and the state together, and tells observers of nothing out of order. -/
theorem Turn.aligned {server : Server} {now : Nat} {p p' : Poller ρ} (h : Turn now p p')
    (ha : Aligned server p) : Aligned server p' ∧ Told p.state p'.state := by
  cases h with
  | stop hd hr =>
    have hu : p.task ≠ .unstarted := fun hu => by simp [isRunning, hu] at hr
    exact ⟨⟨ha.coherent, ha.phase_ne_idle hu⟩, .same⟩
  | submit hd ht =>
    obtain ⟨hv, hn⟩ : p.state.value = { phase := .submitting } ∧ p.polls = 0 := by
      simpa only [Aligned, ht] using ha
    exact ⟨⟨hv, by simpa [polls, Call.isPoll] using hn, fun x hx => (by cases hx)⟩, .same⟩
  | @refused f hd ht =>
    obtain ⟨hv, -, -⟩ := ha.submitting ht
    rw [hv]
    refine ⟨⟨PollerState.coherent_refused _ _, by simp [phase, PollerState.fail]⟩, .published ?_ ?_⟩
    · rw [hv]; exact .inl (show PollerPhase.failed ∈ PollerPhase.submitting.successors by decide)
    · rw [hv]; exact id
  | @accepted jobId hd ht =>
    obtain ⟨hv, hn, hx⟩ := ha.submitting ht
    rw [hv]
    refine ⟨⟨⟨.inl rfl, ⟨_, rfl, rfl, rfl⟩, rfl⟩, (hx _ rfl).symm, ?_⟩, .published ?_ fun _ => rfl⟩
    · exact ⟨hn.symm, fun _ => hn.symm, fun f hf => (by cases hf)⟩
    · rw [hv]; exact .inl (show PollerPhase.polling ∈ PollerPhase.submitting.successors by decide)
  | ignore hd ht hc ho =>
    refine ⟨?_, .same⟩
    simp only [Aligned, ht]
    exact ha.tracking ht
  | @askCancel t hd ht hc ho hp =>
    obtain ⟨hl, hs, hi⟩ := ha.tracking ht
    refine ⟨⟨hl.setPhase (.inr rfl), hs, ?_⟩, .published (.inl ?_) id⟩
    · have e : polls { p with calls := (now, .cancel t.jobId) :: p.calls } = p.polls := by
        simp [polls, Call.isPoll]
      exact ⟨hi.issued.trans e.symm, fun h => (hi.idle h).trans e.symm,
        fun f hf => e ▸ hi.busy f hf⟩
    · rw [show p.state.value.phase = .polling from hp]
      show PollerPhase.cancelling ∈ PollerPhase.polling.successors
      decide
  | cancelled hd ht hc hr hp =>
    obtain ⟨hl, hs, hi⟩ := ha.tracking ht
    exact ⟨⟨hl, hs, ⟨hi.issued, hi.idle, hi.busy⟩⟩, .same⟩
  | resume hd ht hc hr hp =>
    obtain ⟨hl, hs, hi⟩ := ha.tracking ht
    refine ⟨⟨hl.setPhase (.inl rfl), hs, ⟨hi.issued, hi.idle, hi.busy⟩⟩, .published (.inl ?_) id⟩
    rw [show p.state.value.phase = .cancelling from hp]
    show PollerPhase.polling ∈ PollerPhase.cancelling.successors
    decide
  | @polled t epoch result hd ht hc hr =>
    obtain ⟨hl, hs, hi⟩ := ha.tracking ht
    obtain ⟨job, hj, hp⟩ := ha.polled hd ht hr
    exact hp.aligned hl hj hs fun _ => hi.taken rfl
  | @poll t hd ht hc hp hn =>
    obtain ⟨hl, hs, hi⟩ := ha.tracking ht
    refine ⟨⟨hl, hs, ?_⟩, .same⟩
    have e : polls { p with calls := (now, .status t.jobId) :: p.calls } = p.polls + 1 := by
      simp [polls, Call.isPoll]
    have ha' := hi.idle hp
    have hi' : t.epochs.issue.issued = p.polls + 1 := congrArg (· + 1) hi.issued
    refine ⟨hi'.trans e.symm, fun h => (by cases h), fun f hf => ?_⟩
    obtain rfl := Option.some.inj hf
    exact ⟨hi'.trans e.symm, e.trans (congrArg (· + 1) ha'.symm), fun x hx => (by cases hx)⟩

/-- A turn that ends the task finds the poller torn down, or leaves it in a terminal phase. -/
theorem Turn.ended {server : Server} {now : Nat} {p p' : Poller ρ} (h : Turn now p p')
    (ha : Aligned server p) (ht : p'.task = .ended) :
    p'.disposed = true ∨ p'.phase.isTerminal = true := by
  cases h with
  | stop hd => exact .inl hd
  | refused => exact .inr rfl
  | submit | accepted | askCancel | cancelled | resume | poll => cases ht
  | ignore hd ht' => cases ht.symm.trans ht'
  | polled hd ht' hc hr =>
    obtain ⟨job, -, hp⟩ := ha.polled hd ht' hr
    generalize server.status p.polls = x, p.onPolled _ _ _ = p' at hp ht ⊢
    cases hp with
    | news | failed => cases ht
    | refused | lost => exact .inr rfl
    | @concluded snapshot hs =>
      refine .inr ?_
      show (PollerPhase.ofStatus snapshot.status).isTerminal = true
      cases snapshot.status <;> rfl

/-! ## Steps -/

theorem aligned_submit {server : Server} {p : Poller ρ} (request : ρ) (h : Aligned server p) :
    Aligned server (p.submit request).1 ∧ Told p.state (p.submit request).1.state := by
  unfold submit
  split
  · exact ⟨h, .same⟩
  · next hc =>
    obtain ⟨hd, hp⟩ : p.disposed = false ∧ p.phase = .idle := by simpa using hc
    have ht : p.task = .unstarted := Classical.byContradiction fun ht => h.phase_ne_idle ht hp
    obtain ⟨hv, hn⟩ : p.state.value = {} ∧ p.polls = 0 := by simpa only [Aligned, ht] using h
    rw [publish_of_not_disposed hd]
    refine ⟨⟨by rw [hv]; rfl, hn⟩, .published (.inl ?_) id⟩
    rw [show p.state.value.phase = .idle from hp]
    show PollerPhase.submitting ∈ PollerPhase.idle.successors
    decide

/-- Whether an answer is one that the server gives, to the last of the polls if it is to a poll. -/
def Server.Gives (server : Server) (polls : Nat) : Answer → Prop
  | .submitted result => result = server.submission
  | .status result => result = server.status polls
  | .cancelled _ => True

/-- An answer reaches the task, and nobody is told of it. -/
theorem aligned_answer {server : Server} {p : Poller ρ} {a : Answer} (h : Aligned server p)
    (ha : server.Gives p.polls a) :
    Aligned server (p.answer a) ∧ (p.answer a).state = p.state := by
  unfold answer
  split
  · next r ht =>
    obtain ⟨hv, hn, -⟩ := h.submitting ht
    exact ⟨⟨hv, hn, fun x hx => Option.some.inj hx ▸ ha⟩, rfl⟩
  · next r t ht =>
    obtain ⟨hl, hj, hi⟩ := h.tracking ht
    obtain rfl : r = server.status p.polls := ha
    exact ⟨⟨hl, hj, hi.answered⟩, rfl⟩
  · next r t ht =>
    obtain ⟨hl, hj, hi⟩ := h.tracking ht
    exact ⟨⟨hl, hj, ⟨hi.issued, hi.idle, hi.busy⟩⟩, rfl⟩
  · exact ⟨h, rfl⟩

theorem aligned_cancel {server : Server} {p : Poller ρ} (h : Aligned server p) :
    Aligned server p.cancel ∧ p.cancel.state = p.state := by
  unfold cancel
  split <;> exact ⟨h, rfl⟩

namespace Run

/-- Every step keeps the task and the state together, and tells observers of nothing out of
order. -/
theorem aligned_step {server : Server} (r : Run ρ) (e : Event ρ) (h : Aligned server r.poller) :
    Aligned server (r.step server e).poller ∧
      Told r.poller.state (r.step server e).poller.state := by
  cases e with
  | submit request => exact aligned_submit request h
  | cancel => exact ⟨(aligned_cancel h).1, (aligned_cancel h).2 ▸ .same⟩
  | dispose => exact ⟨h, .same⟩
  | drop => exact ⟨h, .same⟩
  | submissionAnswered =>
    have ha := aligned_answer h (a := .submitted server.submission) rfl
    exact ⟨ha.1, ha.2 ▸ .same⟩
  | pollAnswered =>
    have ha := aligned_answer h (a := .status (server.status r.poller.polls)) rfl
    exact ⟨ha.1, ha.2 ▸ .same⟩
  | cancelAnswered =>
    have ha := aligned_answer h (a := .cancelled (server.cancel r.poller.cancelCalls)) trivial
    exact ⟨ha.1, ha.2 ▸ .same⟩
  | turn =>
    simp only [step]
    cases ht : r.poller.turn r.now with
    | none => exact ⟨h, .same⟩
    | some p => exact (turn_eq_some ht).aligned h
  | pass ms => exact ⟨h, .same⟩

end Run

/-! ## Submissions -/

/-- Whether the task has taken its first turn. -/
def Task.hasStarted : Task ρ → Bool
  | .unstarted | .starting _ => false
  | _ => true

/-- A turn submits the request of a task that starts, or nothing. -/
theorem Turn.submits {server : Server} {now : Nat} {p p' : Poller ρ} (h : Turn now p p')
    (ha : Aligned server p) :
    p.isRunning = true ∧ p'.task.hasStarted = true ∧
      ((∃ request, p.task = .starting request ∧ p'.submissions = request :: p.submissions) ∨
        p'.submissions = p.submissions) := by
  cases h with
  | stop hd hr => exact ⟨hr, rfl, .inr rfl⟩
  | @submit request hd ht => exact ⟨by simp [isRunning, ht], rfl, .inl ⟨request, ht, rfl⟩⟩
  | polled hd ht hc hr =>
    obtain ⟨job, -, hp⟩ := ha.polled hd ht hr
    refine ⟨by simp [isRunning, ht], ?_⟩
    generalize server.status p.polls = x, p.onPolled _ _ _ = p' at hp ⊢
    cases hp <;> exact ⟨rfl, .inr rfl⟩
  | ignore hd ht =>
    refine ⟨by simp [isRunning, ht], ?_, .inr rfl⟩
    show p.task.hasStarted = true
    rw [ht]
    rfl
  | refused hd ht | accepted hd ht => exact ⟨by simp [isRunning, ht], rfl, .inr rfl⟩
  | askCancel hd ht | cancelled hd ht => exact ⟨by simp [isRunning, ht], rfl, .inr rfl⟩
  | resume hd ht | poll hd ht => exact ⟨by simp [isRunning, ht], rfl, .inr rfl⟩

/-- The answers of a server are no submissions, and start nothing. -/
theorem submissions_answer (a : Answer) (p : Poller ρ) :
    (p.answer a).submissions = p.submissions ∧
      (∀ request, (p.answer a).task = .starting request ↔ p.task = .starting request) ∧
      ((p.answer a).task = .unstarted ↔ p.task = .unstarted) := by
  unfold answer
  split
  · next ht => simp [submissions, ht]
  · next ht => simp [submissions, ht]
  · next ht => simp [submissions, ht]
  · exact ⟨rfl, fun _ => .rfl, .rfl⟩

namespace Run

/-- At most one submission was accepted, and the server got its request once, or not at all. -/
structure SubmittedOnce (r : Run ρ) : Prop where
  unstarted : r.poller.task = .unstarted → r.accepted = [] ∧ r.poller.submissions = []
  starting : ∀ request, r.poller.task = .starting request →
    r.accepted = [request] ∧ r.poller.submissions = []
  started : r.poller.task ≠ .unstarted → ∃ request, r.accepted = [request] ∧
    (r.poller.submissions = [] ∨ r.poller.submissions = [request])

theorem SubmittedOnce.congr {r r' : Run ρ} (h : SubmittedOnce r) (ha : r'.accepted = r.accepted)
    (hs : r'.poller.submissions = r.poller.submissions)
    (ht : ∀ request, r'.poller.task = .starting request ↔ r.poller.task = .starting request)
    (hu : r'.poller.task = .unstarted ↔ r.poller.task = .unstarted) : SubmittedOnce r' := by
  refine ⟨?_, ?_, ?_⟩
  · rw [hu, ha, hs]; exact h.unstarted
  · intro request; rw [ht, ha, hs]; exact h.starting request
  · rw [ne_eq, hu, ha, hs]; exact h.started

theorem SubmittedOnce.submit {server : Server} {r : Run ρ} (request : ρ) (h : SubmittedOnce r)
    (ha : Aligned server r.poller) : SubmittedOnce (r.step server (.submit request)) := by
  simp only [step, Poller.submit]
  split
  · exact h.congr rfl rfl (fun _ => .rfl) .rfl
  · next hc =>
    obtain ⟨hd, hp⟩ : r.poller.disposed = false ∧ r.poller.phase = .idle := by simpa using hc
    have ht : r.poller.task = .unstarted :=
      Classical.byContradiction fun ht => ha.phase_ne_idle ht hp
    obtain ⟨hn, hs⟩ := h.unstarted ht
    rw [publish_of_not_disposed hd]
    have he : request :: r.accepted = [request] := by rw [hn]
    refine ⟨fun hu => (by cases hu), fun q hq => ?_, fun _ => ⟨request, he, .inl hs⟩⟩
    injection hq with hq
    exact ⟨hq ▸ he, hs⟩

theorem SubmittedOnce.turn {server : Server} {r : Run ρ} (h : SubmittedOnce r)
    (ha : Aligned server r.poller) : SubmittedOnce (r.step server .turn) := by
  simp only [step]
  cases ht : r.poller.turn r.now with
  | none => exact h.congr rfl rfl (fun _ => .rfl) .rfl
  | some p =>
    obtain ⟨hr, hp, hs⟩ := (turn_eq_some ht).submits ha
    refine ⟨fun hu => ?_, fun q hq => ?_, fun _ => ?_⟩
    · rw [show p.task = .unstarted from hu] at hp
      cases hp
    · rw [show p.task = .starting q from hq] at hp
      cases hp
    · show ∃ request, r.accepted = [request] ∧ (p.submissions = [] ∨ p.submissions = [request])
      rcases hs with ⟨request, hq, hs⟩ | hs
      · obtain ⟨he, hn⟩ := h.starting request hq
        exact ⟨request, he, .inr (by rw [hs, hn])⟩
      · rw [hs]
        exact h.started fun hu => by simp [isRunning, hu] at hr

theorem submittedOnce_step {server : Server} (r : Run ρ) (e : Event ρ)
    (ha : Aligned server r.poller) (h : SubmittedOnce r) : SubmittedOnce (r.step server e) := by
  cases e with
  | submit request => exact h.submit request ha
  | cancel =>
    refine h.congr rfl ?_ (fun _ => ?_) ?_ <;> simp only [step, Poller.cancel] <;> split <;> rfl
  | dispose => exact h.congr rfl rfl (fun _ => .rfl) .rfl
  | drop => exact h.congr rfl rfl (fun _ => .rfl) .rfl
  | submissionAnswered =>
    obtain ⟨hs, ht, hu⟩ := submissions_answer (.submitted server.submission) r.poller
    exact h.congr rfl hs ht hu
  | pollAnswered =>
    obtain ⟨hs, ht, hu⟩ :=
      submissions_answer (.status (server.status r.poller.polls)) r.poller
    exact h.congr rfl hs ht hu
  | cancelAnswered =>
    obtain ⟨hs, ht, hu⟩ :=
      submissions_answer (.cancelled (server.cancel r.poller.cancelCalls)) r.poller
    exact h.congr rfl hs ht hu
  | turn => exact h.turn ha
  | pass ms => exact h.congr rfl rfl (fun _ => .rfl) .rfl

/-! ## Runs -/

/-- What every step of a run keeps. -/
structure Sound (server : Server) (r : Run ρ) : Prop where
  aligned : Aligned server r.poller
  inOrder : InOrder r.poller.state
  submittedOnce : SubmittedOnce r

theorem Sound.step {server : Server} {r : Run ρ} (h : Sound server r) (e : Event ρ) :
    Sound server (r.step server e) :=
  have ha := aligned_step r e h.aligned
  ⟨ha.1, ha.2.inOrder h.inOrder, submittedOnce_step r e h.aligned h.submittedOnce⟩

theorem Sound.after {server : Server} {r : Run ρ} (h : Sound server r) (es : List (Event ρ)) :
    Sound server (r.after server es) :=
  after_induction (Sound server) (fun _ e h => h.step e) es h

theorem sound_start (server : Server) {s : PollSettings} {p : Poller ρ}
    (h : ofSettings s = .ok p) : Sound server (start p) := by
  unfold ofSettings at h
  split at h
  · cases h
    exact ⟨⟨rfl, rfl⟩, ⟨rfl, by simp [Watched.seen, start]⟩, ⟨fun _ => ⟨rfl, rfl⟩,
      fun _ h => (by cases h), fun h => absurd rfl h⟩⟩
  · cases h

/-- A job that is known stays known, and stays the same job. -/
theorem Sound.job_after {server : Server} {r : Run ρ} (h : Sound server r) (es : List (Event ρ))
    {job : Job} (hj : job ∈ r.poller.state.value.job) :
    ∃ job' ∈ (r.after server es).poller.state.value.job, job'.id = job.id := by
  have hs : Aligned server (r.after server es).poller ∧
      (r.after server es).poller.state.value.job.isSome = true := by
    refine after_induction (fun r => Aligned server r.poller ∧
      r.poller.state.value.job.isSome = true) ?_ es ⟨h.aligned, Option.isSome_of_mem hj⟩
    intro r e hr
    have ha := aligned_step r e hr.1
    exact ⟨ha.1, ha.2.isSome_job hr.2⟩
  obtain ⟨job', hj'⟩ := Option.isSome_iff_exists.1 hs.2
  refine ⟨job', hj', ?_⟩
  have he := (hs.1.coherent.jobId job' hj').symm.trans (h.aligned.coherent.jobId job hj)
  injection he

/-- In a terminal phase the task has ended. -/
theorem Sound.ended {server : Server} {r : Run ρ} (h : Sound server r)
    (hp : r.poller.phase.isTerminal = true) : r.poller.task = .ended := by
  have ha := h.aligned
  unfold Aligned at ha
  unfold phase at hp
  split at ha
  · rw [ha.1] at hp; exact absurd hp (by decide)
  · rw [ha.1] at hp; exact absurd hp (by decide)
  · rw [ha.1] at hp; exact absurd hp (by decide)
  · rcases ha.1.phase with he | he <;> rw [he] at hp <;> exact absurd hp (by decide)
  · assumption

/-- A task ends as the poller is torn down, or in a terminal phase. -/
theorem ended_step {server : Server} {r : Run ρ} (e : Event ρ) (ha : Aligned server r.poller)
    (h : r.poller.task = .ended → r.poller.disposed = true ∨ r.poller.phase.isTerminal = true)
    (ht : (r.step server e).poller.task = .ended) :
    (r.step server e).poller.disposed = true ∨
      (r.step server e).poller.phase.isTerminal = true := by
  have answered : ∀ a, (r.poller.answer a).task = .ended →
      (r.poller.answer a).disposed = true ∨ (r.poller.answer a).phase.isTerminal = true := by
    intro a ht
    unfold answer at ht ⊢
    split at ht
    · cases ht
    · cases ht
    · cases ht
    · exact h ht
  cases e with
  | submit request =>
    simp only [step, Poller.submit] at ht ⊢
    split at ht
    · next hc => rw [if_pos hc]; exact h ht
    · cases ht
  | cancel =>
    simp only [step, Poller.cancel] at ht ⊢
    split at ht
    · next hc => rw [if_pos hc]; exact h ht
    · next hc => rw [if_neg hc]; exact h ht
  | dispose | drop => exact .inl rfl
  | submissionAnswered => exact answered _ ht
  | pollAnswered => exact answered _ ht
  | cancelAnswered => exact answered _ ht
  | turn =>
    simp only [step] at ht ⊢
    cases hto : r.poller.turn r.now with
    | none => rw [hto] at ht; exact h ht
    | some p => rw [hto] at ht; exact (turn_eq_some hto).ended ha ht
  | pass ms => exact h ht

/-- A poller that is not torn down, and polls or has its job cancelled, follows the job. -/
theorem exists_tracking {server : Server} {s : PollSettings} {p : Poller ρ}
    (hp : ofSettings s = .ok p) {es : List (Event ρ)}
    (hd : ((start p).after server es).poller.disposed = false)
    (hl : ((start p).after server es).poller.phase = .polling ∨
      ((start p).after server es).poller.phase = .cancelling) :
    ∃ t, ((start p).after server es).poller.task = .tracking t := by
  have hn : p.task = .unstarted := by
    unfold ofSettings at hp
    split at hp
    · cases hp; rfl
    · cases hp
  have hr : Aligned server ((start p).after server es).poller ∧
      (((start p).after server es).poller.task = .ended →
        ((start p).after server es).poller.disposed = true ∨
          ((start p).after server es).poller.phase.isTerminal = true) :=
    after_induction
      (fun r : Run ρ => Aligned server r.poller ∧ (r.poller.task = .ended →
        r.poller.disposed = true ∨ r.poller.phase.isTerminal = true))
      (fun r e h => ⟨(aligned_step r e h.1).1, ended_step e h.1 h.2⟩) es
      ⟨(sound_start server hp).aligned, fun ht => by cases hn.symm.trans ht⟩
  obtain ⟨ha, he⟩ := hr
  generalize (start p).after server es = r at *
  have early : ∀ phase, r.poller.state.value.phase = phase →
      phase = .idle ∨ phase = .submitting → False := by
    rintro phase hp (rfl | rfl) <;> rcases hl with hl | hl <;> cases hp.symm.trans hl
  unfold Aligned at ha
  split at ha
  · exact (early _ (congrArg _ ha.1) (.inl rfl)).elim
  · exact (early _ (congrArg _ ha.1) (.inr rfl)).elim
  · exact (early _ (congrArg _ ha.1) (.inr rfl)).elim
  · next t ht => exact ⟨t, ht⟩
  · next ht =>
    rcases he ht with h | h
    · cases hd.symm.trans h
    · rcases hl with hl | hl <;> rw [hl] at h <;> cases h

/-- A terminal state is never left. -/
theorem Sound.state_after {server : Server} {r : Run ρ} (h : Sound server r)
    (hp : r.poller.phase.isTerminal = true) (es : List (Event ρ)) :
    (r.after server es).poller.state = r.poller.state := by
  have hi : r.poller.phase ≠ .idle := fun hi => by rw [hi] at hp; exact absurd hp (by decide)
  exact (after_of_ended (h.ended hp) hi es).2.1

/-- What can be said of the states of a run, where it stands and whatever comes next. -/
structure Consistent (server : Server) (r : Run ρ) : Prop where
  /-- Observers are told of phases that may follow one another. -/
  chain : (phases r.poller.state).IsChain fun later earlier => earlier.precedes later
  head : (phases r.poller.state).head? = some r.poller.phase
  /-- A terminal state is never left. -/
  final : r.poller.phase.isTerminal = true →
    ∀ more, (r.after server more).poller.state = r.poller.state
  coherent : r.poller.state.value.Coherent server.submission
  /-- A job that is known stays known, and stays the same job. -/
  job : ∀ more, ∀ job ∈ r.poller.state.value.job,
    ∃ job' ∈ (r.after server more).poller.state.value.job, job'.id = job.id
  /-- One submission is accepted at most. -/
  accepted : r.accepted.length ≤ 1
  /-- The server gets the request of the submission once, or not at all. -/
  submissions : r.poller.submissions = [] ∨ r.poller.submissions = r.accepted

/-- Whatever the owner, the server and the task of a poller do, and in whatever order: its states
come in order, and in each of them phase, job and error belong together. -/
theorem states_in_order_and_coherent (s : PollSettings) (h : 0 < s.intervalMs) (server : Server) :
    ∃ p : Poller ρ, ofSettings s = .ok p ∧ ∀ es : List (Event ρ),
      Consistent server ((start p).after server es) := by
  obtain ⟨p, hp⟩ := ofSettings_of_pos (ρ := ρ) h
  refine ⟨p, hp, fun es => ?_⟩
  have hs := (sound_start server hp).after es
  have hsubmitted : ((start p).after server es).accepted.length ≤ 1 ∧
      (((start p).after server es).poller.submissions = [] ∨
        ((start p).after server es).poller.submissions =
          ((start p).after server es).accepted) := by
    by_cases ht : ((start p).after server es).poller.task = .unstarted
    · obtain ⟨ha, hn⟩ := hs.submittedOnce.unstarted ht
      exact ⟨by simp [ha], .inl hn⟩
    · obtain ⟨request, ha, hn⟩ := hs.submittedOnce.started ht
      rw [ha]
      exact ⟨Nat.le_refl 1, hn⟩
  exact {
    chain := hs.inOrder.chain
    head := hs.inOrder.head
    final := fun ht more => hs.state_after ht more
    coherent := hs.aligned.coherent
    job := fun more job hj => hs.job_after more hj
    accepted := hsubmitted.1
    submissions := hsubmitted.2 }

/-- A server that refuses to cancel the job, although it is being cancelled. -/
def stubborn : Server where
  submission := .ok "job-1"
  status _ := .ok { jobId := "job-1", status := .cancelled }
  cancel _ := .error ⟨.network, "reset"⟩

/-- The owner asks to cancel twice before the first poll is answered. -/
def askedTwice : List (Event String) :=
  [.submit "scan", .turn, .submissionAnswered, .turn, .cancel, .turn, .cancelAnswered, .turn,
    .cancel, .turn, .pass 1000, .cancelAnswered, .turn, .turn, .pollAnswered, .turn]

/-- The server refuses to cancel twice, and the job is cancelled all the same. -/
theorem states_in_order_and_coherent_stubborn :
    (0 : UInt64) < ({} : PollSettings).intervalMs ∧
      ∃ p : Poller String, ofSettings {} = .ok p ∧
        let r := (start p).after stubborn askedTwice
        phases r.poller.state =
          [.cancelled, .polling, .cancelling, .polling, .cancelling, .polling, .submitting, .idle] ∧
        (phases r.poller.state).IsChain (fun later earlier => earlier.precedes later) ∧
        r.poller.state.value.Coherent stubborn.submission ∧ r.accepted = ["scan"] := by
  obtain ⟨p, hp, h⟩ := states_in_order_and_coherent (ρ := String) {} (by decide) stubborn
  have hconsistent := h askedTwice
  refine ⟨by decide, p, hp, ?_, hconsistent.chain, hconsistent.coherent, ?_⟩
  · cases hp; decide
  · cases hp; rfl

end Run

end Poller

end BackendMonitor
