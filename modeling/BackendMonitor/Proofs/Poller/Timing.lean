import BackendMonitor.Proofs.Poller.Coherence

/-!
# The ticker of a poller and its polls

* `Ticker.exists_due_take`, `Ticker.due_take_le`: what taking a tick does to the grid of the ticker;
* `Timing`: all that one thing that happens has to do with the ticker and the polls
  (`Run.timing_step`);
* `Begun`: a poller whose job was accepted, or refused, for which there is no other grid to come.
-/

namespace BackendMonitor

/-! ## Tickers -/

namespace Ticker

/-- A tick that is taken uses up an instant of the grid. -/
theorem exists_due_take {now origin k : Nat} {t : Ticker} (hp : 0 < t.period)
    (hk : t.due = origin + k * t.period) (hd : t.due ≤ now) :
    ∃ j, k < j ∧ (t.take now).due = origin + j * t.period := by
  unfold take
  simp only
  split
  · refine ⟨k + 1, Nat.lt_succ_self k, ?_⟩
    rw [hk, Nat.succ_mul]
    omega
  · -- The whole periods since the tick was due are skipped.
    refine ⟨k + (now - t.due) / t.period + 1, Nat.lt_succ_of_le (Nat.le_add_right _ _), ?_⟩
    have hm := Nat.div_add_mod (now - t.due) t.period
    have hl := Nat.mod_lt (now - t.due) hp
    have hs : (k + (now - t.due) / t.period + 1) * t.period =
        k * t.period + t.period * ((now - t.due) / t.period) + t.period := by
      rw [Nat.succ_mul, Nat.add_mul, Nat.mul_comm ((now - t.due) / t.period)]
    rw [hs]
    omega

/-- The next tick is due a period later at the latest. -/
theorem due_take_le {now : Nat} {t : Ticker} (hd : t.due ≤ now) :
    (t.take now).due ≤ now + t.period := by
  unfold take
  simp only
  split <;> omega

/-- A tick that is taken just when it is due is followed by the next one. -/
theorem due_take_self (t : Ticker) : (t.take t.due).due = t.due + t.period := by
  unfold take
  exact if_pos (Nat.le_add_right _ _)

end Ticker

namespace Poller

variable {ρ : Type}

/-! ## What can happen -/

/-- The instants of the polls, newest first. -/
def starts (p : Poller ρ) : List Nat :=
  (p.calls.filter (·.2.isPoll)).map (·.1)

/-- The ticker of a task that follows a job, and its poll under way. -/
def timing? (p : Poller ρ) : Option (Ticker × Option PollInFlight) :=
  match p.task with
  | .tracking t => some (t.ticker, t.poll)
  | _ => none

/-- Whether the task waits for the answer to a poll. -/
def awaitsAnswer (p : Poller ρ) : Bool :=
  match p.timing? with
  | some (_, some f) => f.result.isNone
  | _ => false

/-- Whether the job of the poller is live and the poller is not torn down. -/
def isFollowing (p : Poller ρ) : Bool :=
  !p.disposed && (p.phase == .polling || p.phase == .cancelling)

theorem length_starts (p : Poller ρ) : p.starts.length = p.polls := by
  rw [starts, List.length_map, polls, List.countP_eq_length_filter]

theorem polls_of_starts_eq {p p' : Poller ρ} (h : p'.starts = p.starts) : p'.polls = p.polls := by
  rw [← length_starts, h, length_starts]

theorem polls_of_starts_eq_cons {now : Nat} {p p' : Poller ρ} (h : p'.starts = now :: p.starts) :
    p'.polls = p.polls + 1 := by
  rw [← length_starts, h, List.length_cons, length_starts]

theorem timing?_of_tracking {p : Poller ρ} {t : Tracking} (ht : p.task = .tracking t) :
    p.timing? = some (t.ticker, t.poll) := by
  unfold timing?
  rw [ht]

theorem tracking_of_timing? {p : Poller ρ} {k : Ticker} {f : Option PollInFlight}
    (h : p.timing? = some (k, f)) : ∃ t, p.task = .tracking t ∧ t.ticker = k ∧ t.poll = f := by
  unfold timing? at h
  split at h
  · next t ht =>
    cases h
    exact ⟨t, ht, rfl, rfl⟩
  · cases h

theorem isPolling_eq (p : Poller ρ) : p.isPolling = p.timing?.any (·.2.isSome) := by
  unfold isPolling timing?
  cases p.task <;> rfl

/-- Whether a poll is answered. -/
def Event.isPollAnswer : Event ρ → Bool
  | .pollAnswered => true
  | _ => false

/-- What one thing that happens has to do with the ticker and the polls. -/
inductive Timing (now : Nat) (e : Event ρ) (p p' : Poller ρ) : Prop where
  | accepted (hp : p.phase = .submitting) (ht : p.timing? = none)
      (ht' : p'.timing? = some (⟨p.period, now + p.period⟩, none)) (hs : p'.starts = p.starts)
  | made {k : Ticker} {f : PollInFlight} (ht : p.timing? = some (k, none)) (hn : k.due ≤ now)
      (ht' : p'.timing? = some (k.take now, some f)) (hf : f.result = none)
      (hs : p'.starts = now :: p.starts)
  | answered {k : Ticker} {f f' : PollInFlight} (he : e.isPollAnswer = true)
      (ht : p.timing? = some (k, some f))
      (ht' : p'.timing? = some (k, some f')) (hf : f'.result.isSome = true)
      (hs : p'.starts = p.starts)
  | taken {k : Ticker} {f : PollInFlight} (ht : p.timing? = some (k, some f))
      (hf : f.result.isSome = true) (ht' : p'.timing? = some (k, none)) (hs : p'.starts = p.starts)
  | ended (ht' : p'.task = .ended) (hs : p'.starts = p.starts)
  | apart (ht' : p'.timing? = p.timing?) (hs : p'.starts = p.starts)

theorem starts_cancel (now : Nat) (jobId : String) (p : Poller ρ) :
    starts { p with calls := (now, .cancel jobId) :: p.calls } = p.starts := by
  simp [starts, Call.isPoll]

theorem Polled.timing {now : Nat} {e : Event ρ} {t₀ t : Tracking} {f : PollInFlight} {job : Job}
    {result : Result} {p p' : Poller ρ} (h : Polled t job p result p')
    (ht : p.task = .tracking t₀) (hf : t₀.poll = some f) (hr : f.result.isSome = true)
    (hn : t.poll = none) (hk : t.ticker = t₀.ticker) : Timing now e p p' := by
  have ht₀ : p.timing? = some (t₀.ticker, some f) := by rw [timing?_of_tracking ht, hf]
  cases h with
  | news | failed => exact .taken ht₀ hr (by rw [← hk, ← hn]; rfl) rfl
  | concluded | refused | lost => exact .ended rfl rfl

theorem Turn.timing {server : Server} {now : Nat} {e : Event ρ} {p p' : Poller ρ}
    (h : Turn now p p') (ha : Aligned server p) : Timing now e p p' := by
  cases h with
  | stop | refused => exact .ended rfl rfl
  | submit hd ht =>
    refine .apart ?_ ?_
    · simp [timing?, ht]
    · simp [starts, Call.isPoll]
  | accepted hd ht =>
    obtain ⟨hv, -, -⟩ := ha.submitting ht
    exact .accepted (congrArg (·.phase) hv) (by simp [timing?, ht]) rfl rfl
  | ignore => exact .apart rfl rfl
  | askCancel hd ht => exact .apart (timing?_of_tracking ht).symm (starts_cancel _ _ _)
  | cancelled hd ht | resume hd ht => exact .apart (timing?_of_tracking ht).symm rfl
  | @polled t epoch result hd ht hc hr =>
    obtain ⟨job, -, hp⟩ := ha.polled hd ht hr
    exact hp.timing ht hr rfl rfl rfl
  | @poll t hd ht hc hp hn =>
    refine .made (k := t.ticker) ?_ hn rfl rfl ?_
    · rw [timing?_of_tracking ht, hp]
    · simp [starts, Call.isPoll]

theorem timing_answer {now : Nat} {e : Event ρ} {a : Answer} {p : Poller ρ}
    (h : ∀ x, a = .status x → e.isPollAnswer = true) : Timing now e p (p.answer a) := by
  unfold answer
  split
  · next ht => exact .apart (by simp [timing?, ht]) rfl
  · next x t ht =>
    cases hf : t.poll with
    | none =>
      refine .apart ?_ rfl
      rw [timing?_of_tracking ht, hf]
      rfl
    | some f => exact .answered (h x rfl) (by rw [timing?_of_tracking ht, hf]) rfl rfl rfl
  · next ht => exact .apart (timing?_of_tracking ht).symm rfl
  · exact .apart rfl rfl

/-- The period of a poller never changes. -/
theorem Turn.period {server : Server} {now : Nat} {p p' : Poller ρ} (h : Turn now p p')
    (ha : Aligned server p) : p'.period = p.period := by
  cases h with
  | polled hd ht hc hr =>
    obtain ⟨job, -, hp⟩ := ha.polled hd ht hr
    generalize server.status p.polls = x, p.onPolled _ _ _ = p' at hp ⊢
    cases hp <;> rfl
  | _ => rfl

namespace Run

variable {server : Server} {r : Run ρ}

/-- What a step has to do with the ticker and the polls. -/
theorem timing_step (e : Event ρ) (ha : Aligned server r.poller) :
    Timing r.now e r.poller (r.step server e).poller := by
  cases e with
  | submit request =>
    show Timing r.now _ r.poller (r.poller.submit request).1
    rcases submit_cases request r.poller with h | ⟨-, hp, h⟩
    · rw [h]
      exact .apart rfl rfl
    · rw [h]
      have ht : r.poller.task = .unstarted :=
        Classical.byContradiction fun ht => ha.phase_ne_idle ht hp
      exact .apart (by simp [timing?, ht]) rfl
  | cancel =>
    show Timing r.now _ r.poller r.poller.cancel
    rcases cancel_cases r.poller with h | ⟨-, -, h⟩ <;> rw [h] <;> exact .apart rfl rfl
  | dispose | drop | pass => exact .apart rfl rfl
  | submissionAnswered => exact timing_answer fun x hx => by cases hx
  | pollAnswered => exact timing_answer fun _ _ => rfl
  | cancelAnswered => exact timing_answer fun x hx => by cases hx
  | turn =>
    simp only [step]
    cases ht : r.poller.turn r.now with
    | none => exact .apart rfl rfl
    | some p => exact (turn_eq_some ht).timing ha

theorem period_step (e : Event ρ) (ha : Aligned server r.poller) :
    (r.step server e).poller.period = r.poller.period := by
  have answered : ∀ a, (r.poller.answer a).period = r.poller.period := by
    intro a
    rw [answer_eq]
  cases e with
  | submit request =>
    show (r.poller.submit request).1.period = _
    rcases submit_cases request r.poller with h | ⟨-, -, h⟩ <;> rw [h]
  | cancel =>
    show r.poller.cancel.period = _
    rcases cancel_cases r.poller with h | ⟨-, -, h⟩ <;> rw [h]
  | dispose | drop | pass => rfl
  | submissionAnswered => exact answered _
  | pollAnswered => exact answered _
  | cancelAnswered => exact answered _
  | turn =>
    simp only [step]
    cases ht : r.poller.turn r.now with
    | none => rfl
    | some p => exact (turn_eq_some ht).period ha

/-- The clock stands still but for time that passes. -/
theorem now_step {e : Event ρ} (he : ∀ ms, e ≠ .pass ms) : (r.step server e).now = r.now := by
  cases e with
  | pass ms => exact absurd rfl (he ms)
  | _ => rfl

/-- The clock never goes back. -/
theorem now_le_step (server : Server) (r : Run ρ) (e : Event ρ) : r.now ≤ (r.step server e).now := by
  cases e with
  | pass ms => exact Nat.le_add_right _ _
  | _ => exact Nat.le_refl _

end Run

/-! ## The start of the grid -/

/-- A poller that has left a phase for good stays out of it. -/
theorem Told.begun {w w' : Watched PollerState} (h : Told w w')
    (hw : w.value.phase ≠ .idle ∧ w.value.phase ≠ .submitting) :
    w'.value.phase ≠ .idle ∧ w'.value.phase ≠ .submitting := by
  cases h with
  | same => exact hw
  | amended hp => exact hp ▸ hw
  | @published s hp =>
    obtain ⟨h₀, h₁⟩ := hw
    rcases hp with hp | ⟨hp, -⟩
    · simp only [Watched.value_publish]
      generalize w.value.phase = phase, s.phase = next at *
      revert hp h₀ h₁
      cases phase <;> cases next <;> decide
    · exact hp ▸ ⟨h₀, h₁⟩

/-- A poller that has submitted its job and heard of it. -/
structure Begun (server : Server) (p : Poller ρ) : Prop where
  aligned : Aligned server p
  phase : p.state.value.phase ≠ .idle ∧ p.state.value.phase ≠ .submitting

theorem Begun.step {server : Server} {r : Run ρ} (h : Begun server r.poller) (e : Event ρ) :
    Begun server (r.step server e).poller :=
  have ha := Run.aligned_step r e h.aligned
  ⟨ha.1, ha.2.begun h.phase⟩

end Poller

end BackendMonitor
