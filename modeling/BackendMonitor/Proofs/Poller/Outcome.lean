import BackendMonitor.Proofs.Counting
import BackendMonitor.Proofs.Poller.Progress

/-!
# How a job ends for its poller

The results of the polls alone decide how a job ends, in the order of the polls: not when they come,
not what the owner asks, and not what the server says to that.

* `ending?` says what a list of results comes to: the first of its prefixes that has an ending is
  where the poller stops;
* `Decided` is what the task knows of the results that it has taken; every step keeps it as long as
  the poller is not torn down;
* `Run.polls_decide_outcome`: all of it, for every run that is not torn down.
-/

namespace BackendMonitor.Poller

variable {ρ : Type}

/-! ## Results -/

/-- Whether a poll failed for a reason that passes. -/
def isPassing : Result → Bool
  | .error f => f.isTransient
  | .ok _ => false

/-- How many results at the end of a list are failures that pass. -/
def failuresInARow (rs : List Result) : Nat :=
  (rs.reverse.takeWhile isPassing).length

/-- The snapshots among some results. -/
def snapshots (rs : List Result) : List JobSnapshot :=
  rs.filterMap Except.toOption

/-- How the last of some results ends a job, if it does: in what phase, and why if it failed. A
budget of zero is as good as one. -/
def ending? (budget : Option UInt32) (rs : List Result) : Option (PollerPhase × Option String) :=
  match rs.getLast? with
  | none => none
  | some (.ok s) =>
    if s.status.isTerminal then
      some (.ofStatus s.status,
        if s.status = .failed then some (s.error.getD Job.unexplained) else none)
    else none
  | some (.error f) =>
    if !f.isTransient then some (.failed, some f.message)
    else if budget.any fun m => max m.toNat 1 ≤ failuresInARow rs then
      some (.failed,
        some s!"Lost track of job after {failuresInARow rs} failed polls: {f.message}")
    else none

theorem failuresInARow_ok (rs : List Result) (s : JobSnapshot) :
    failuresInARow (rs ++ [.ok s]) = 0 := by
  simp [failuresInARow, isPassing]

theorem failuresInARow_error (rs : List Result) {f : Failure} (hf : f.isTransient = true) :
    failuresInARow (rs ++ [.error f]) = failuresInARow rs + 1 := by
  simp [failuresInARow, isPassing, hf]

theorem snapshots_ok (rs : List Result) (s : JobSnapshot) :
    snapshots (rs ++ [.ok s]) = snapshots rs ++ [s] := by
  simp [snapshots, Except.toOption]

theorem snapshots_error (rs : List Result) (f : Failure) :
    snapshots (rs ++ [.error f]) = snapshots rs := by
  simp [snapshots, Except.toOption]

theorem ending?_nil (budget : Option UInt32) : ending? budget [] = none := rfl

theorem ending?_ok (budget : Option UInt32) (rs : List Result) (s : JobSnapshot) :
    ending? budget (rs ++ [.ok s]) =
      if s.status.isTerminal then
        some (.ofStatus s.status,
          if s.status = .failed then some (s.error.getD Job.unexplained) else none)
      else none := by
  simp only [ending?, List.getLast?_concat]

theorem ending?_error (budget : Option UInt32) (rs : List Result) (f : Failure) :
    ending? budget (rs ++ [.error f]) =
      if !f.isTransient then some (.failed, some f.message)
      else if budget.any fun m => max m.toNat 1 ≤ failuresInARow (rs ++ [.error f]) then
        some (.failed, some
          s!"Lost track of job after {failuresInARow (rs ++ [.error f])} failed polls: {f.message}")
      else none := by
  simp only [ending?, List.getLast?_concat]

/-- As long as polling goes on, the failures in a row are within the budget. -/
theorem failuresInARow_lt {m : UInt32} {rs : List Result} (h : ending? (some m) rs = none) :
    failuresInARow rs < max m.toNat 1 := by
  rcases List.eq_nil_or_concat rs with rfl | ⟨rs, x, rfl⟩
  · exact Nat.lt_of_lt_of_le Nat.zero_lt_one (Nat.le_max_right _ _)
  · rw [List.concat_eq_append] at h ⊢
    cases x with
    | ok s =>
      rw [failuresInARow_ok]
      exact Nat.lt_of_lt_of_le Nat.zero_lt_one (Nat.le_max_right _ _)
    | error f =>
      rw [ending?_error] at h
      cases hf : f.isTransient with
      | false => simp [hf] at h
      | true =>
        have hn : ¬ max m.toNat 1 ≤ failuresInARow (rs ++ [.error f]) := by
          intro hle
          rw [hf, if_neg (by decide),
            if_pos (by simpa only [Option.any_some, decide_eq_true_eq])] at h
          cases h
        omega

/-- A job ends with a snapshot that reports an end, or its poller fails. -/
theorem phase_of_ending? {budget : Option UInt32} {rs : List Result} {x : Result}
    {phase : PollerPhase} {error : Option String}
    (h : ending? budget (rs ++ [x]) = some (phase, error)) :
    (∃ t, x = .ok t ∧ t.status.isTerminal = true ∧ phase = .ofStatus t.status) ∨
      (∃ f, x = .error f) ∧ phase = .failed := by
  cases x with
  | ok t =>
    rw [ending?_ok] at h
    split at h
    · next ht => cases h; exact .inl ⟨t, rfl, ht, rfl⟩
    · cases h
  | error f =>
    rw [ending?_error] at h
    split at h
    · cases h; exact .inr ⟨⟨f, rfl⟩, rfl⟩
    · split at h
      · cases h; exact .inr ⟨⟨f, rfl⟩, rfl⟩
      · cases h

theorem isTerminal_of_ending? {budget : Option UInt32} {rs : List Result}
    {phase : PollerPhase} {error : Option String} (h : ending? budget rs = some (phase, error)) :
    phase.isTerminal = true := by
  rcases List.eq_nil_or_concat rs with rfl | ⟨rs, x, rfl⟩
  · cases h
  · rw [List.concat_eq_append] at h
    rcases phase_of_ending? h with ⟨t, -, -, rfl⟩ | ⟨-, rfl⟩
    · cases t.status <;> rfl
    · rfl

/-! ## Counting failures -/

/-- The task gives up just when the failures in a row, counted without a bound, use up the
budget. -/
theorem any_le_countFailure {budget : Option UInt32} {n : UInt32} {k : Nat}
    (h : n.toNat = min k 0xFFFFFFFF) :
    budget.any (· ≤ countFailure n) = budget.any fun m => max m.toNat 1 ≤ k + 1 := by
  cases budget with
  | none => rfl
  | some m =>
    have hm := m.toNat_lt
    have hc := toNat_countFailure n
    simp only [Option.any_some, decide_eq_decide, UInt32.le_iff_toNat_le]
    omega

theorem lostTrack_eq (n : UInt32) (f : Failure) :
    lostTrack n f = s!"Lost track of job after {n.toNat} failed polls: {f.message}" := rfl

/-! ## What the task knows -/

/-- The job as some results leave it. -/
def jobOf (jobId : String) (rs : List Result) : Job :=
  Job.applyAll { id := jobId } (snapshots rs)

theorem jobOf_ok (jobId : String) (rs : List Result) (s : JobSnapshot) :
    jobOf jobId (rs ++ [.ok s]) = ((jobOf jobId rs).apply s).1 := by
  rw [jobOf, snapshots_ok, Job.applyAll_append]
  rfl

theorem jobOf_error (jobId : String) (rs : List Result) (f : Failure) :
    jobOf jobId (rs ++ [.error f]) = jobOf jobId rs := by
  rw [jobOf, snapshots_error, jobOf]

/-- What a task that follows a job knows of the results `rs` that it has taken, of which none is an
ending. -/
structure Followed (budget : Option UInt32) (rs : List Result) (t : Tracking)
    (s : PollerState) : Prop where
  job : s.job = some (jobOf t.jobId rs)
  failures : t.failures.toNat = min (failuresInARow rs) 0xFFFFFFFF
  going : ending? budget rs = none

/-- The state after the results `rs`, of which the last is an ending. -/
def Concluded (budget : Option UInt32) (jobId : String) (rs : List Result) (s : PollerState) :
    Prop :=
  ending? budget rs = some (s.phase, s.error) ∧ s.job = some (jobOf jobId rs)

/-- A result is taken: the task goes on, or it ends. -/
theorem Polled.decided {budget : Option UInt32} {rs : List Result} {t : Tracking} {job : Job}
    {result : Result} {p p' : Poller ρ} (h : Polled t job p result p') (hb : p.budget = budget)
    (hj : p.state.value.job = some job) (hl : p.state.value.Live t.jobId)
    (hf : Followed budget rs t p.state.value) :
    (∃ t', p'.task = .tracking t' ∧ t'.poll = t.poll ∧ t'.epochs = t.epochs ∧
        Followed budget (rs ++ [result]) t' p'.state.value) ∨
      p'.task = .ended ∧ Concluded budget t.jobId (rs ++ [result]) p'.state.value := by
  have hjob : job = jobOf t.jobId rs := Option.some.inj (hj.symm.trans hf.job)
  have hk : job.status.isTerminal = false := by
    obtain ⟨job', hj', -, hk⟩ := hl.job
    rwa [Option.some.inj (hj.symm.trans hj')]
  subst hb
  cases h with
  | @news s hs w hw =>
    refine .inl ⟨_, rfl, rfl, rfl, ?_, ?_, ?_⟩
    · rcases hw with rfl | rfl <;> rw [jobOf_ok, ← hjob] <;> rfl
    · rw [failuresInARow_ok]; rfl
    · rw [ending?_ok, hs]; rfl
  | @concluded s hs =>
    obtain ⟨-, -, he⟩ := Job.apply_of_end hk hs
    refine .inr ⟨rfl, ?_, ?_⟩
    · rw [ending?_ok, if_pos hs]
      simp only [Watched.value_publish, PollerState.conclude, hl.error]
      by_cases hsf : s.status = .failed
      · rw [if_pos hsf, if_pos hsf, he hsf]
      · rw [if_neg hsf, if_neg hsf]
    · rw [jobOf_ok, ← hjob]; rfl
  | @refused f ht =>
    refine .inr ⟨rfl, ?_, ?_⟩
    · rw [ending?_error, ht]; rfl
    · rw [jobOf_error]; exact hf.job
  | @lost f ht hn =>
    rw [any_le_countFailure hf.failures] at hn
    -- The count is exact here: with a budget it never comes to its bound.
    have hc : (countFailure t.failures).toNat = failuresInARow rs + 1 := by
      obtain ⟨m, hm, -⟩ := (Option.any_eq_true _ _).1 hn
      have hlt := failuresInARow_lt (hm ▸ hf.going)
      have hm := m.toNat_lt
      have hn := hf.failures
      rw [toNat_countFailure]
      omega
    refine .inr ⟨rfl, ?_, ?_⟩
    · rw [ending?_error, failuresInARow_error rs ht, hn, ht, ← hc, ← lostTrack_eq]
      rfl
    · rw [jobOf_error]; exact hf.job
  | @failed f ht hn =>
    rw [any_le_countFailure hf.failures] at hn
    refine .inl ⟨_, rfl, rfl, rfl, ?_, ?_, ?_⟩
    · rw [jobOf_error]; exact hf.job
    · have hn := hf.failures
      rw [failuresInARow_error rs ht, toNat_countFailure]
      omega
    · rw [ending?_error, failuresInARow_error rs ht, hn, ht]; rfl

/-! ## Steps -/

/-- What a task that has ended knows of the results of `n` polls, which were all that it made. -/
inductive Over (server : Server) (budget : Option UInt32) (n : Nat) (s : PollerState) : Prop where
  /-- The job was not accepted. -/
  | refused {f : Failure} (hs : server.submission = .error f) (hn : n = 0)
      (hv : s = { phase := .failed, error := some f.message })
  | concluded {jobId : String} (hs : server.submission = .ok jobId)
      (hb : ∀ k < n, ending? budget (server.results k) = none)
      (hc : Concluded budget jobId (server.results n) s)

/-- What the task knows of the results of the polls, if the poller was not torn down. -/
def Decided (server : Server) (p : Poller ρ) : Prop :=
  match p.task with
  | .unstarted | .starting _ | .submitting _ => True
  | .tracking t =>
    Followed p.budget (server.results t.epochs.applied) t p.state.value ∧
      ∀ k < t.epochs.applied, ending? p.budget (server.results k) = none
  | .ended => Over server p.budget p.polls p.state.value

theorem Decided.tracking {server : Server} {p : Poller ρ} {t : Tracking} (h : Decided server p)
    (ht : p.task = .tracking t) :
    Followed p.budget (server.results t.epochs.applied) t p.state.value ∧
      ∀ k < t.epochs.applied, ending? p.budget (server.results k) = none := by
  simpa only [Decided, ht] using h

/-- A step that takes no result decides nothing. -/
theorem Decided.stay {server : Server} {p p' : Poller ρ} {t t' : Tracking} (h : Decided server p)
    (ht : p.task = .tracking t) (ht' : p'.task = .tracking t')
    (hs : p'.state.value.job = p.state.value.job) (hb : p'.budget = p.budget)
    (hj : t'.jobId = t.jobId) (hf : t'.failures = t.failures)
    (he : t'.epochs.applied = t.epochs.applied) : Decided server p' := by
  obtain ⟨⟨hjob, hn, hg⟩, hall⟩ := h.tracking ht
  simp only [Decided, ht', hb, he]
  exact ⟨⟨by rw [hs, hj]; exact hjob, by rw [hf]; exact hn, hg⟩, hall⟩

theorem Polled.frame {t : Tracking} {job : Job} {result : Result} {p p' : Poller ρ}
    (h : Polled t job p result p') :
    p'.calls = p.calls ∧ p'.budget = p.budget ∧ p'.disposed = p.disposed := by
  cases h <;> exact ⟨rfl, rfl, rfl⟩

theorem Polled.cancels {t : Tracking} {job : Job} {result : Result} {p p' : Poller ρ}
    (h : Polled t job p result p') : p'.cancels = p.cancels := by
  cases h <;> rfl

/-- The result of the poll under way is taken. -/
theorem decided_onPolled {server : Server} {p : Poller ρ} {t : Tracking} {epoch : Nat}
    {result : Result} (hd : p.disposed = false) (ha : Aligned server p) (h : Decided server p)
    (ht : p.task = .tracking t) (hr : t.poll = some ⟨epoch, some result⟩) :
    Decided server (p.onPolled t epoch result) := by
  obtain ⟨hl, hs, hi⟩ := ha.tracking ht
  obtain ⟨job, hj, hp⟩ := ha.polled hd ht hr
  obtain ⟨-, hn, -⟩ := hi.fresh hr
  obtain ⟨hf, hb⟩ := h.tracking ht
  obtain ⟨hc, hg, -⟩ := hp.frame
  have hrs : server.results t.epochs.applied ++ [server.status p.polls] =
      server.results p.polls := by
    rw [hn, Server.results_succ]
  have hb' : ∀ k < p.polls, ending? p.budget (server.results k) = none := by
    intro k hk
    rcases Nat.lt_or_eq_of_le (show k ≤ t.epochs.applied by omega) with hk | rfl
    · exact hb k hk
    · exact hf.going
  rcases hp.decided rfl hj hl ⟨hf.job, hf.failures, hf.going⟩ with
    ⟨t', ht', hq, he, hf'⟩ | ⟨ht', hv⟩
  · rw [hrs] at hf'
    simp only [Decided, ht', he, hg]
    exact ⟨hf', hb'⟩
  · rw [hrs] at hv
    simp only [Decided, ht']
    have hn : (p.onPolled t epoch result).polls = p.polls := by rw [polls, hc, polls]
    rw [hn, hg]
    exact .concluded hs hb' hv

theorem Turn.decided {server : Server} {now : Nat} {p p' : Poller ρ} (h : Turn now p p')
    (hd : p.disposed = false) (ha : Aligned server p) (hf : Decided server p) :
    Decided server p' := by
  cases h with
  | stop hd' => cases hd.symm.trans hd'
  | submit hd ht => trivial
  | @refused f hd ht =>
    obtain ⟨hv, hn, hx⟩ := ha.submitting ht
    exact .refused (hx _ rfl).symm hn (by rw [hv]; rfl)
  | @accepted jobId hd ht =>
    exact ⟨⟨rfl, rfl, ending?_nil _⟩, fun k hk => absurd hk (Nat.not_lt_zero k)⟩
  | ignore hd ht => exact hf.stay ht ht rfl rfl rfl rfl rfl
  | askCancel hd ht | cancelled hd ht | resume hd ht | poll hd ht =>
    exact hf.stay ht rfl rfl rfl rfl rfl rfl
  | polled hd ht hc hr => exact decided_onPolled hd ha hf ht hr

theorem Turn.frame {server : Server} {now : Nat} {p p' : Poller ρ} (h : Turn now p p')
    (ha : Aligned server p) : p'.budget = p.budget ∧ p'.disposed = p.disposed := by
  cases h with
  | polled hd ht hc hr =>
    obtain ⟨job, -, hp⟩ := ha.polled hd ht hr
    exact hp.frame.2
  | _ => exact ⟨rfl, rfl⟩

theorem decided_answer {server : Server} {p : Poller ρ} (a : Answer) (h : Decided server p) :
    Decided server (p.answer a) := by
  unfold answer
  split
  · trivial
  · next r t ht => exact h.stay ht rfl rfl rfl rfl rfl rfl
  · next r t ht => exact h.stay ht rfl rfl rfl rfl rfl rfl
  · exact h

theorem answer_frame (a : Answer) (p : Poller ρ) :
    (p.answer a).budget = p.budget ∧ (p.answer a).disposed = p.disposed := by
  unfold answer
  split <;> exact ⟨rfl, rfl⟩

/-- What every step keeps until the poller is torn down. -/
structure Faithful (server : Server) (budget : Option UInt32) (p : Poller ρ) : Prop where
  aligned : Aligned server p
  disposed : p.disposed = false
  budget : p.budget = budget
  decided : Decided server p

namespace Run

theorem faithful_step {server : Server} {budget : Option UInt32} (r : Run ρ) (e : Event ρ)
    (he : e.isTeardown = false) (h : Faithful server budget r.poller) :
    Faithful server budget (r.step server e).poller := by
  have ha := (aligned_step r e h.aligned).1
  have answered : ∀ a, Aligned server (r.poller.answer a) →
      Faithful server budget (r.poller.answer a) := fun a ha =>
    have hf := answer_frame a r.poller
    ⟨ha, hf.2.trans h.disposed, hf.1.trans h.budget, decided_answer a h.decided⟩
  cases e with
  | submit request =>
    refine ⟨ha, ?_, ?_, ?_⟩ <;> simp only [step, Poller.submit] <;> split
    · exact h.disposed
    · rw [publish_of_not_disposed h.disposed]; exact h.disposed
    · exact h.budget
    · rw [publish_of_not_disposed h.disposed]; exact h.budget
    · exact h.decided
    · trivial
  | cancel =>
    refine ⟨ha, ?_, ?_, ?_⟩ <;> simp only [step, Poller.cancel] <;> split
    · exact h.disposed
    · exact h.disposed
    · exact h.budget
    · exact h.budget
    · exact h.decided
    · exact h.decided
  | dispose | drop => cases he
  | submissionAnswered => exact answered _ ha
  | pollAnswered => exact answered _ ha
  | cancelAnswered => exact answered _ ha
  | turn =>
    simp only [step] at ha ⊢
    cases ht : r.poller.turn r.now with
    | none => exact h
    | some p =>
      have ht := turn_eq_some ht
      obtain ⟨hb, hd⟩ := ht.frame h.aligned
      exact ⟨(ht.aligned h.aligned).1, hd.trans h.disposed, hb.trans h.budget,
        ht.decided h.disposed h.aligned h.decided⟩
  | pass ms => exact h

theorem faithful_after (server : Server) {s : PollSettings} {p : Poller ρ}
    (h : ofSettings s = .ok p) {es : List (Event ρ)} (hes : Undisturbed es) :
    Faithful server s.maxConsecutiveFailures ((start p).after server es).poller := by
  refine after_induction_of_undisturbed
    (fun r => Faithful server s.maxConsecutiveFailures r.poller) faithful_step hes ?_
  have ha := (sound_start server h).aligned
  unfold ofSettings at h
  split at h
  · cases h; exact ⟨ha, rfl, rfl, trivial⟩
  · cases h

end Run

/-! ## Outcomes -/

theorem taken_of_tracking {server : Server} {p : Poller ρ} {t : Tracking} (ha : Aligned server p)
    (ht : p.task = .tracking t) : p.taken = t.epochs.applied := by
  obtain ⟨-, -, hi⟩ := ha.tracking ht
  unfold taken isPolling
  simp only [ht]
  cases hp : t.poll with
  | none =>
    rw [if_neg (by simp)]
    exact (hi.idle hp).symm
  | some f =>
    obtain ⟨-, hn, -⟩ := hi.busy f hp
    rw [if_pos (by rfl)]
    omega

theorem taken_of_ended {p : Poller ρ} (ht : p.task = .ended) : p.taken = p.polls := by
  simp [taken, isPolling, ht]

theorem taken_le_polls (p : Poller ρ) : p.taken ≤ p.polls ∧ p.polls ≤ p.taken + 1 := by
  unfold taken
  split <;> omega

/-- How a job that was accepted as `jobId` stands: it is as the snapshots that were taken leave it,
and the poller follows it until the first of the results that is an ending, and no longer. -/
structure Outcome (server : Server) (budget : Option UInt32) (jobId : String) (p : Poller ρ) :
    Prop where
  job : p.state.value.job = some (jobOf jobId (server.results p.taken))
  first : ∀ k < p.taken, ending? budget (server.results k) = none
  live : ending? budget (server.results p.taken) = none →
    (p.phase = .polling ∨ p.phase = .cancelling) ∧ p.state.value.error = none ∧ p.isRunning = true
  ended : ∀ phase error, ending? budget (server.results p.taken) = some (phase, error) →
    p.phase = phase ∧ p.state.value.error = error ∧ p.task = .ended ∧ p.polls = p.taken

theorem Faithful.outcome_of_tracking {server : Server} {budget : Option UInt32} {p : Poller ρ}
    {t : Tracking} (h : Faithful server budget p) (ht : p.task = .tracking t) :
    Outcome server budget t.jobId p := by
  obtain ⟨hl, -, -⟩ := h.aligned.tracking ht
  obtain ⟨hf, hb⟩ := h.decided.tracking ht
  rw [h.budget, ← taken_of_tracking h.aligned ht] at hf hb
  refine ⟨hf.job, hb, fun _ => ⟨hl.phase, hl.error, by simp [isRunning, ht]⟩, ?_⟩
  intro phase error he
  rw [hf.going] at he
  cases he

theorem Faithful.outcome_of_concluded {server : Server} {budget : Option UInt32} {p : Poller ρ}
    {jobId : String} (ht : p.task = .ended)
    (hb : ∀ k < p.polls, ending? budget (server.results k) = none)
    (hc : Concluded budget jobId (server.results p.polls) p.state.value) :
    Outcome server budget jobId p := by
  rw [← taken_of_ended ht] at hb hc
  obtain ⟨he, hj⟩ := hc
  refine ⟨hj, hb, fun hn => ?_, fun phase error hs => ?_⟩
  · rw [he] at hn; cases hn
  · rw [he] at hs
    cases hs
    exact ⟨rfl, rfl, ht, (taken_of_ended ht).symm⟩

/-- Where a poller that was not torn down stands. -/
theorem Faithful.stands {server : Server} {budget : Option UInt32} {p : Poller ρ}
    (h : Faithful server budget p) :
    (p.polls = 0 ∧ p.state.value.job = none ∧ (p.phase = .idle ∨ p.phase = .submitting)) ∨
      (∃ f, server.submission = .error f ∧ p.polls = 0 ∧
        p.state.value = { phase := .failed, error := some f.message }) ∨
      ∃ jobId, server.submission = .ok jobId ∧ Outcome server budget jobId p := by
  have ha := h.aligned
  have hd := h.decided
  cases ht : p.task with
  | unstarted =>
    simp only [Aligned, ht] at ha
    exact .inl ⟨ha.2, by rw [ha.1], by simp [phase, ha.1]⟩
  | starting request =>
    simp only [Aligned, ht] at ha
    exact .inl ⟨ha.2, by rw [ha.1], by simp [phase, ha.1]⟩
  | submitting result =>
    obtain ⟨hv, hn, -⟩ := ha.submitting ht
    exact .inl ⟨hn, by rw [hv], by simp [phase, hv]⟩
  | tracking t => exact .inr (.inr ⟨_, (ha.tracking ht).2.1, h.outcome_of_tracking ht⟩)
  | ended =>
    simp only [Decided, ht, h.budget] at hd
    cases hd with
    | refused hs hn hv => exact .inr (.inl ⟨_, hs, hn, hv⟩)
    | concluded hs hb hc => exact .inr (.inr ⟨_, hs, outcome_of_concluded ht hb hc⟩)

/-- A task that runs, with its poller in a phase of a job that is followed, follows a job. -/
theorem Faithful.exists_tracking {server : Server} {budget : Option UInt32} {p : Poller ρ}
    (h : Faithful server budget p)
    (hl : (p.phase = .polling ∨ p.phase = .cancelling) ∧ p.state.value.error = none ∧
      p.isRunning = true) : ∃ t, p.task = .tracking t := by
  obtain ⟨hp, -, hr⟩ := hl
  have ha := h.aligned
  cases ht : p.task with
  | tracking t => exact ⟨t, rfl⟩
  | _ => simp_all [Aligned, isRunning, phase]

/-- A poller whose task has ended without being torn down is at its end. -/
theorem Faithful.isTerminal_of_ended {server : Server} {budget : Option UInt32} {p : Poller ρ}
    (h : Faithful server budget p) (ht : p.task = .ended) :
    p.phase.isTerminal = true := by
  have hd := h.decided
  simp only [Decided, ht] at hd
  cases hd with
  | refused hs hn hv => rw [phase, hv]; rfl
  | concluded hs hb hc => exact isTerminal_of_ending? hc.1

/-- A poller that has made a poll follows a job that was accepted, or has followed it. -/
theorem Faithful.outcome_of_polled {server : Server} {budget : Option UInt32} {p : Poller ρ}
    (h : Faithful server budget p) (hn : 0 < p.polls) :
    ∃ jobId, server.submission = .ok jobId ∧ Outcome server budget jobId p := by
  rcases h.stands with ⟨hz, -⟩ | ⟨f, -, hz, -⟩ | ho
  · omega
  · omega
  · exact ho

namespace Run

/-- The task goes on: the poll under way is taken once it is answered, or the next one is made once
its time has come. -/
def Advances (server : Server) (r : Run ρ) : Prop :=
  (r.poller.polls = r.poller.taken + 1 ∧
      ∃ k, (r.after server (.pollAnswered :: .replicate k .turn)).poller.taken =
        r.poller.taken + 1) ∨
    (r.poller.polls = r.poller.taken ∧
      ∃ ms k, (r.after server (.pass ms :: .replicate k .turn)).poller.polls = r.poller.taken + 1)

theorem advances_of_tracking {server : Server} {r : Run ρ} {t : Tracking}
    (ha : Aligned server r.poller) (hd : r.poller.disposed = false)
    (ht : r.poller.task = .tracking t) : Advances server r := by
  obtain ⟨-, -, hi⟩ := ha.tracking ht
  have hn := taken_of_tracking ha ht
  have hf : Following t.poll t.ticker r.poller.polls r.poller := ⟨hd, ⟨t, ht, rfl, rfl⟩, rfl⟩
  cases hp : t.poll with
  | none =>
    rw [hp] at hf
    have he : r.poller.polls = r.poller.taken := (hi.idle hp).symm.trans hn.symm
    exact .inr ⟨he, by rw [← he]; exact exists_poll_made hf⟩
  | some f =>
    rw [hp] at hf
    obtain ⟨-, ho, -⟩ := hi.busy f hp
    have he : r.poller.polls = r.poller.taken + 1 := by omega
    exact .inl ⟨he, by rw [← he]; exact exists_poll_taken ha hf⟩

theorem exists_submission_taken_of_early {server : Server} {budget : Option UInt32} {r : Run ρ}
    (h : Faithful server budget r.poller) (hj : r.poller.state.value.job = none)
    (hp : r.poller.phase = .submitting) :
    ∃ more, Undisturbed more ∧
      (r.after server more).poller.phase = submittedPhase server.submission := by
  refine exists_submission_taken h.aligned h.disposed ?_
  have ha := h.aligned
  have hd := h.decided
  cases ht : r.poller.task with
  | unstarted =>
    simp only [Aligned, ht] at ha
    rw [phase, ha.1] at hp
    cases hp
  | starting request => exact .inl ⟨request, rfl⟩
  | submitting result => exact .inr ⟨result, rfl⟩
  | tracking t =>
    obtain ⟨⟨-, ⟨job, hj', -⟩, -⟩, -⟩ := ha.tracking ht
    cases hj.symm.trans hj'
  | ended =>
    simp only [Decided, ht] at hd
    cases hd with
    | refused hs hn hv => rw [phase, hv] at hp; cases hp
    | concluded hs hb hc => cases hj.symm.trans hc.2

/-- Unless the poller is torn down, the results of the polls decide what becomes of a job that was
accepted, whatever else happens, and whenever: the job is what the snapshots make of it, in their
order; it is followed up to the first ending, and the poller always comes to its next poll and to
the answer; then it says how the job ended, and nothing changes any more. -/
theorem polls_decide_outcome (s : PollSettings) (h : 0 < s.intervalMs) (server : Server) :
    ∃ p : Poller ρ, ofSettings s = .ok p ∧ ∀ es : List (Event ρ), Undisturbed es →
      let r := (start p).after server es
      let result := ending? s.maxConsecutiveFailures (server.results r.poller.taken)
      (r.poller.polls = 0 ∧ r.poller.state.value.job = none ∧
          (r.poller.phase = .idle ∨ r.poller.phase = .submitting ∧ ∃ more, Undisturbed more ∧
            (r.after server more).poller.phase = submittedPhase server.submission)) ∨
        (∃ f, server.submission = .error f ∧ r.poller.polls = 0 ∧
          r.poller.state.value = { phase := .failed, error := some f.message }) ∨
        ∃ jobId, server.submission = .ok jobId ∧
          Outcome server s.maxConsecutiveFailures jobId r.poller ∧
          (result = none → Advances server r) ∧
          (result.isSome = true → ∀ more,
            (r.after server more).poller.state = r.poller.state ∧
              (r.after server more).poller.calls = r.poller.calls) := by
  obtain ⟨p, hp⟩ := ofSettings_of_pos h
  refine ⟨p, hp, fun es hes => ?_⟩
  have hf := faithful_after server hp hes
  rcases hf.stands with ⟨hn, hj, he⟩ | hr | ⟨jobId, hs, ho⟩
  · exact .inl ⟨hn, hj, he.imp_right fun hp => ⟨hp, exists_submission_taken_of_early hf hj hp⟩⟩
  · exact .inr (.inl hr)
  · refine .inr (.inr ⟨jobId, hs, ho, fun hn => ?_, fun hn more => ?_⟩)
    · obtain ⟨hq, -, hr⟩ := ho.live hn
      cases ht : ((start p).after server es).poller.task with
      | tracking t => exact advances_of_tracking hf.aligned hf.disposed ht
      | _ =>
        have ha := hf.aligned
        simp_all [Aligned, isRunning, phase]
    · obtain ⟨⟨phase, error⟩, he⟩ := Option.isSome_iff_exists.1 hn
      obtain ⟨-, -, ht, -⟩ := ho.ended phase error he
      have hi := hf.aligned.phase_ne_idle (by rw [ht]; exact fun h => (by cases h))
      exact (after_of_ended ht hi more).2

/-- A server that accepts the job and cannot be reached again after its first snapshot. -/
def vanishing : Server where
  submission := .ok "job-1"
  status n := if n = 1 then .ok { jobId := "job-1", status := .running }
    else .error ⟨.network, "reset"⟩
  cancel _ := .ok ()

/-- A job is accepted and polled three times, and the owner asks to cancel it in between. -/
def threePolls : List (Event String) :=
  [.submit "scan", .turn, .submissionAnswered, .turn, .pass 1000, .turn, .pollAnswered, .cancel,
    .turn, .turn, .pass 1000, .turn, .cancelAnswered, .pollAnswered, .turn, .turn, .pass 1000,
    .turn, .pollAnswered, .turn]

/-- With a budget of two, the poller of a server that vanishes gives up at the third poll. -/
theorem polls_decide_outcome_vanishing :
    (0 : UInt64) < ({ maxConsecutiveFailures := some 2 } : PollSettings).intervalMs ∧
      Undisturbed threePolls ∧
      ∃ p : Poller String, ofSettings { maxConsecutiveFailures := some 2 } = .ok p ∧
        let r := (start p).after vanishing threePolls
        Outcome vanishing (some 2) "job-1" r.poller ∧ r.poller.taken = 3 ∧
          r.poller.phase = .failed ∧ r.poller.state.value.error =
            some "Lost track of job after 2 failed polls: Network error: reset" := by
  have hd : Undisturbed threePolls := by decide
  obtain ⟨p, hp, h⟩ := polls_decide_outcome (ρ := String) { maxConsecutiveFailures := some 2 }
    (by decide) vanishing
  have ho := h threePolls hd
  refine ⟨by decide, hd, p, hp, ?_⟩
  cases hp
  rcases ho with ⟨hn, -, -⟩ | ⟨f, hs, -⟩ | ⟨jobId, hs, ho, -⟩
  · exact absurd hn (by decide)
  · cases hs
  · cases hs
    exact ⟨ho, by decide, by decide, by decide⟩

end Run

end BackendMonitor.Poller
