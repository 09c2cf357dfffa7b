import BackendMonitor.Proofs.Poller.Coherence

/-!
# Progress of a poller

The task looks at what concerns canceling first, so that a poll and its answer may have to wait for
it. They do not wait forever: each turn takes one thing that the owner asked for or the server said
about that, and a poller that is not torn down comes to its poll in the end.

* `Following`: how far the task has come with its polls, which what concerns canceling leaves alone;
* `Run.exists_submission_taken`: a submission that is answered is taken;
* `Run.exists_poll_taken`: a poll that is answered is taken;
* `Run.exists_poll_made`: when no poll is under way, one is made when it is due.
-/

namespace BackendMonitor.Poller

variable {ρ : Type}

/-- A task that follows a job, with `poll` under way, its ticker at `ticker`, and `n` polls made. -/
structure Following (poll : Option PollInFlight) (ticker : Ticker) (n : Nat) (p : Poller ρ) :
    Prop where
  disposed : p.disposed = false
  tracking : ∃ t, p.task = .tracking t ∧ t.poll = poll ∧ t.ticker = ticker
  polls : p.polls = n

/-- Whether there is nothing about canceling that the task has yet to look at. -/
def Clear (p : Poller ρ) : Prop :=
  p.cancels = 0 ∧ ∀ t, p.task = .tracking t → ∀ result, t.cancel ≠ some ⟨some result⟩

/-- A task that has been asked to submit a job submits it. -/
theorem turn_of_starting (now : Nat) {request : ρ} {p : Poller ρ} (hd : p.disposed = false)
    (ht : p.task = .starting request) :
    p.turn now = some { p.call now (.submit request) with task := .submitting none } := by
  unfold turn
  rw [ht]
  exact congrArg some (if_neg (by simp [hd]))

theorem turn_of_tracking (now : Nat) {t : Tracking} {p : Poller ρ} (hd : p.disposed = false)
    (ht : p.task = .tracking t) : p.turn now = p.turnTracking now t := by
  unfold turn
  rw [ht]
  exact if_neg (by simp [hd])

/-- A task for which nothing about canceling is left looks at its poll. -/
theorem turn_of_clear {now : Nat} {t : Tracking} {p : Poller ρ} (hd : p.disposed = false)
    (ht : p.task = .tracking t) (hc : Clear p) :
    p.turn now =
      match t.poll with
      | some ⟨epoch, some result⟩ => some (p.onPolled t epoch result)
      | some ⟨_, none⟩ => none
      | none => if t.ticker.isDue now then some (p.onTick now t) else none := by
  rw [turn_of_tracking now hd ht, turnTracking, if_neg (by rw [hc.1]; decide)]
  split
  · next hr => exact absurd hr (hc.2 t ht _)
  · next hp _ => rw [hp]
  · next hp _ => rw [hp]
  · next hp _ => rw [hp]

theorem polls_cancel (now : Nat) (jobId : String) (p : Poller ρ) :
    polls { p with calls := (now, .cancel jobId) :: p.calls } = p.polls := by
  simp [polls, Call.isPoll]

/-- While the owner asks to cancel, a turn takes one request. -/
theorem Following.onCancel {poll : Option PollInFlight} {ticker : Ticker} {n : Nat} {p : Poller ρ}
    (h : Following poll ticker n p) (now : Nat) (hc : 0 < p.cancels) :
    ∃ p', p.turn now = some p' ∧ Following poll ticker n p' ∧ p'.cancels = p.cancels - 1 := by
  obtain ⟨hd, ⟨t, ht, hp, hk⟩, hn⟩ := h
  have ht' := turn_of_tracking now hd ht
  rw [turnTracking, if_pos hc] at ht'
  refine ⟨_, ht', ?_⟩
  unfold Poller.onCancel
  simp only
  split
  · exact ⟨⟨hd, ⟨t, ht, hp, hk⟩, hn⟩, rfl⟩
  · rw [publish_of_not_disposed (by exact hd)]
    exact ⟨⟨hd, ⟨_, rfl, hp, hk⟩, (polls_cancel now t.jobId p).trans hn⟩, rfl⟩

/-- When the owner asks for nothing, a turn takes the answer to the last request to cancel. -/
theorem Following.onCancelled {poll : Option PollInFlight} {ticker : Ticker} {n : Nat}
    {p : Poller ρ} (h : Following poll ticker n p) (now : Nat) (hc : p.cancels = 0) :
    Clear p ∨ ∃ p', p.turn now = some p' ∧ Following poll ticker n p' ∧ Clear p' := by
  obtain ⟨hd, ⟨t, ht, hp, hk⟩, hn⟩ := h
  by_cases hr : ∃ result, t.cancel = some ⟨some result⟩
  · obtain ⟨result, hr⟩ := hr
    have ht' := turn_of_tracking now hd ht
    rw [turnTracking, if_neg (by omega), hr] at ht'
    refine .inr ⟨_, ht', ?_⟩
    unfold Poller.onCancelled
    cases result with
    | ok _ =>
      refine ⟨⟨hd, ⟨_, rfl, hp, hk⟩, hn⟩, hc, ?_⟩
      rintro t' ht' result hr
      cases ht'
      cases hr
    | error f =>
      simp only
      split
      · rw [publish_of_not_disposed (by exact hd)]
        refine ⟨⟨hd, ⟨_, rfl, hp, hk⟩, hn⟩, hc, ?_⟩
        rintro t' ht' result hr
        cases ht'
        cases hr
      · refine ⟨⟨hd, ⟨_, rfl, hp, hk⟩, hn⟩, hc, ?_⟩
        rintro t' ht' result hr
        cases ht'
        cases hr
  · refine .inl ⟨hc, fun t' ht' result hr' => hr ⟨result, ?_⟩⟩
    cases ht.symm.trans ht'
    exact hr'

namespace Run

theorem after_turn {server : Server} {r : Run ρ} {p : Poller ρ} (h : r.poller.turn r.now = some p)
    (es : List (Event ρ)) :
    r.after server (.turn :: es) = { r with poller := p }.after server es := by
  rw [after_cons, step, h]
  rfl

/-- The phase that the answer to a submission leads to. -/
def submittedPhase : Except Failure String → PollerPhase
  | .ok _ => .polling
  | .error _ => .failed

theorem phase_submission_taken {server : Server} {r : Run ρ} (hd : r.poller.disposed = false)
    (ht : r.poller.task = .submitting (some server.submission)) :
    (r.after server [.turn]).poller.phase = submittedPhase server.submission := by
  have hto : r.poller.turn r.now = some (r.poller.onSubmitted r.now server.submission) := by
    simp only [Poller.turn, ht, hd, Option.map_some]
    exact if_neg (by decide)
  rw [after_turn hto]
  show (r.poller.onSubmitted r.now server.submission).phase = _
  unfold onSubmitted
  cases server.submission with
  | ok jobId => simp only; rw [publish_of_not_disposed hd]; rfl
  | error f => simp only; rw [publish_of_not_disposed hd]; rfl

/-- When the submission is answered, and the task takes its turns, it takes the answer. -/
theorem exists_submission_taken {server : Server} {r : Run ρ} (ha : Aligned server r.poller)
    (hd : r.poller.disposed = false)
    (ht : (∃ request, r.poller.task = .starting request) ∨
      ∃ result, r.poller.task = .submitting result) :
    ∃ more, Undisturbed more ∧
      (r.after server more).poller.phase = submittedPhase server.submission := by
  have asked : ∀ r : Run ρ, r.poller.disposed = false → r.poller.task = .submitting none →
      (r.after server [.submissionAnswered, .turn]).poller.phase =
        submittedPhase server.submission := by
    intro r hd ht
    have hs : (r.step server .submissionAnswered).poller =
        { r.poller with task := .submitting (some server.submission) } := by
      simp only [step, answer, ht]
    rw [after_cons]
    exact phase_submission_taken (by rw [hs]; exact hd) (by rw [hs])
  rcases ht with ⟨request, ht⟩ | ⟨result, ht⟩
  · refine ⟨[.turn, .submissionAnswered, .turn], by simp [Undisturbed, Event.isTeardown], ?_⟩
    rw [after_turn (turn_of_starting r.now hd ht)]
    exact asked _ hd rfl
  · obtain ⟨-, -, hx⟩ := ha.submitting ht
    cases result with
    | none =>
      exact ⟨[.submissionAnswered, .turn], by simp [Undisturbed, Event.isTeardown], asked r hd ht⟩
    | some x =>
      refine ⟨[.turn], by simp [Undisturbed, Event.isTeardown], ?_⟩
      exact phase_submission_taken hd (hx x rfl ▸ ht)

/-- After some turns, nothing about canceling is left. -/
theorem exists_clear (server : Server) {poll : Option PollInFlight} {ticker : Ticker} {n : Nat}
    {r : Run ρ} (h : Following poll ticker n r.poller) :
    ∃ k, Following poll ticker n (r.after server (.replicate k .turn)).poller ∧
      Clear (r.after server (.replicate k .turn)).poller ∧
      (r.after server (.replicate k .turn)).now = r.now := by
  -- One turn for each request of the owner, and one for the answer to the last one.
  generalize hm : r.poller.cancels = m
  induction m generalizing r with
  | zero =>
    rcases h.onCancelled r.now hm with hc | ⟨p, ht, hf, hc⟩
    · exact ⟨0, h, hc, rfl⟩
    · refine ⟨1, ?_⟩
      rw [List.replicate_one, after_turn ht]
      exact ⟨hf, hc, rfl⟩
  | succ m ih =>
    obtain ⟨p, ht, hf, hc⟩ := h.onCancel r.now (by omega)
    have hc' : p.cancels = m := by omega
    obtain ⟨k, hk⟩ := ih (r := { r with poller := p }) hf hc'
    refine ⟨k + 1, ?_⟩
    rw [List.replicate_succ, after_turn ht]
    exact hk

/-- When the poll under way is answered, and the task takes its turns, it takes the answer. -/
theorem exists_poll_taken {server : Server} {f : PollInFlight} {ticker : Ticker} {n : Nat}
    {r : Run ρ} (ha : Aligned server r.poller) (h : Following (some f) ticker n r.poller) :
    ∃ k, (r.after server (.pollAnswered :: .replicate k .turn)).poller.taken = n := by
  obtain ⟨hd, ⟨t, ht, hp, hk⟩, hn⟩ := h
  have hf : Following (some { f with result := some (server.status n) }) ticker n
      (r.step server .pollAnswered).poller := by
    simp only [step, answer, ht, hn]
    exact ⟨hd, ⟨_, rfl, by rw [hp]; rfl, hk⟩, hn⟩
  obtain ⟨k, hf, hc, -⟩ := exists_clear server hf
  have ha' := after_induction (fun r => Aligned server r.poller)
    (fun r e h => (aligned_step r e h).1) (.pollAnswered :: .replicate k .turn) ha
  refine ⟨k + 1, ?_⟩
  rw [after_cons] at ha'
  rw [after_cons, List.replicate_succ', after_append]
  generalize (r.step server .pollAnswered).after server (.replicate k .turn) = r' at *
  obtain ⟨hd', ⟨t', ht', hp', -⟩, hn'⟩ := hf
  have hto : r'.poller.turn r'.now = some (r'.poller.onPolled t' f.epoch (server.status n)) := by
    rw [turn_of_clear hd' ht' hc, hp']
  rw [after_turn hto, after_nil]
  obtain ⟨job, -, hq⟩ := ha'.polled hd' ht' hp'
  show (r'.poller.onPolled t' f.epoch (server.status n)).taken = n
  generalize server.status r'.poller.polls = x, r'.poller.onPolled _ _ _ = p' at hq
  cases hq <;> exact hn'

/-- When no poll is under way the next one is made, once its time has come. -/
theorem exists_poll_made {server : Server} {ticker : Ticker} {n : Nat} {r : Run ρ}
    (h : Following none ticker n r.poller) :
    ∃ ms k, (r.after server (.pass ms :: .replicate k .turn)).poller.polls = n + 1 := by
  obtain ⟨k, hf, hc, hw⟩ := exists_clear server
    (show Following none ticker n (r.step server (.pass (ticker.due - r.now))).poller from h)
  refine ⟨ticker.due - r.now, k + 1, ?_⟩
  rw [after_cons, List.replicate_succ', after_append]
  have hw : ticker.due ≤ ((r.step server (.pass (ticker.due - r.now))).after server
      (.replicate k .turn)).now := by
    rw [hw]
    show ticker.due ≤ r.now + (ticker.due - r.now)
    omega
  generalize (r.step server (.pass (ticker.due - r.now))).after server (.replicate k .turn) = r'
    at *
  obtain ⟨hd', ⟨t', ht', hp', rfl⟩, hn'⟩ := hf
  have hto : r'.poller.turn r'.now = some (r'.poller.onTick r'.now t') := by
    rw [turn_of_clear hd' ht' hc, hp']
    exact if_pos (by simpa [Ticker.isDue] using hw)
  rw [after_turn hto, after_nil]
  have hs : (r'.poller.onTick r'.now t').polls = r'.poller.polls + 1 := by
    simp [onTick, track, call, polls, Call.isPoll]
  exact hs.trans (congrArg (· + 1) hn')

end Run

end BackendMonitor.Poller
