import BackendMonitor.Program
import BackendMonitor.Proofs.Job.FirstEnd
import BackendMonitor.Proofs.Scan.Rehearsal

/-!
# How the program ends after a scan

A scan ends by the replies of the server alone: not by when they come, and not by when the one who
follows the scan looks.

* `EndsWith`, `LastTells`: which reply ends the job, and what it tells;
* `Verdict`: how the poller ends by that reply, and `Noted`: what is noted of its end;
* `Run.comesToEnd`: a scan that the replies bring to an end comes to it;
* `Ending.LeavesBehind`: what the program leaves behind;
* `replies_decide_exit`: all of it, for every run and every rehearsal.
-/

namespace BackendMonitor.Scan

variable {c : Client} {request : ScanRequest} {replies : Replies} {budget : Option UInt32}
  {jobId : String}

/-! ## Endings -/

/-- What the polls of the job `jobId` learn. -/
def results (c : Client) (jobId : String) (replies : Replies) (n : Nat) : List Poller.Result :=
  (List.range n).map fun k =>
    carryOut (fun _ => replies (k + 1)) (Client.Checked.jobStatus c jobId)

theorem results_succ (c : Client) (jobId : String) (replies : Replies) (n : Nat) :
    results c jobId replies (n + 1) = results c jobId replies n ++
      [carryOut (fun _ => replies (n + 1)) (Client.Checked.jobStatus c jobId)] := by
  simp [results, List.range_succ]

/-- The poller of a scan that was accepted as `jobId` learns what the polls of that job learn. -/
theorem results_server (h : (server c request replies).submission = .ok jobId) (n : Nat) :
    (server c request replies).results n = results c jobId replies n := by
  have h : carryOut (fun _ => replies 0) (Client.Checked.submitScan c request) = .ok jobId := h
  refine List.map_congr_left fun k _ => ?_
  simp only [server, h]
  rfl

/-- The scan is accepted as the job `jobId`, and the reply to the poll `n` is the first one that
ends the job. -/
structure EndsWith (c : Client) (budget : Option UInt32) (request : ScanRequest)
    (replies : Replies) (jobId : String) (n : Nat) : Prop where
  accepted : Accepts c request (replies 0) jobId
  going : ∀ k < n, Poller.ending? budget (results c jobId replies k) = none
  ends : (Poller.ending? budget (results c jobId replies n)).isSome = true

/-- The reply that ends the job tells that it stands as in `t`. -/
def LastTells (c : Client) (budget : Option UInt32) (request : ScanRequest) (replies : Replies)
    (t : JobSnapshot) : Prop :=
  ∃ jobId n, EndsWith c budget request replies jobId n ∧ Tells c jobId (replies n) t

/-- The replies bring the scan to an end. -/
def Ends (c : Client) (budget : Option UInt32) (request : ScanRequest) (replies : Replies) : Prop :=
  (∀ jobId, ¬ Accepts c request (replies 0) jobId) ∨
    ∃ jobId n, EndsWith c budget request replies jobId n

/-- There is one reply that ends the job, of one job. -/
theorem EndsWith.unique {jobId' : String} {n n' : Nat}
    (h : EndsWith c budget request replies jobId n)
    (h' : EndsWith c budget request replies jobId' n') : jobId = jobId' ∧ n = n' := by
  have hj := (submitted_eq_ok_iff.2 h.accepted).symm.trans (submitted_eq_ok_iff.2 h'.accepted)
  injection hj with hj
  subst hj
  refine ⟨rfl, ?_⟩
  rcases Nat.lt_trichotomy n n' with hn | hn | hn
  · have he := h.ends
    rw [h'.going n hn] at he
    cases he
  · exact hn
  · have he := h'.ends
    rw [h.going n' hn] at he
    cases he

theorem LastTells.unique {t t' : JobSnapshot} (h : LastTells c budget request replies t)
    (h' : LastTells c budget request replies t') : t = t' := by
  obtain ⟨jobId, n, he, ht⟩ := h
  obtain ⟨jobId', n', he', ht'⟩ := h'
  obtain ⟨rfl, rfl⟩ := he.unique he'
  have hr := (polled_eq_ok_iff.2 ht).symm.trans (polled_eq_ok_iff.2 ht')
  injection hr

/-- Before the job ends no snapshot reports an end. -/
theorem live_of_going {n : Nat}
    (h : ∀ k ≤ n, Poller.ending? budget (results c jobId replies k) = none) :
    ∀ t ∈ Poller.snapshots (results c jobId replies n), t.status.isTerminal = false := by
  induction n with
  | zero => intro t ht; cases ht
  | succ n ih =>
    have hn := h (n + 1) (Nat.le_refl _)
    have ih := ih fun k hk => h k (Nat.le_succ_of_le hk)
    rw [results_succ] at hn ⊢
    generalize carryOut (fun _ => replies (n + 1)) (Client.Checked.jobStatus c jobId) = x at hn ⊢
    cases x with
    | error f => rw [Poller.snapshots_error]; exact ih
    | ok t =>
      rw [Poller.snapshots_ok]
      rw [Poller.ending?_ok] at hn
      intro t' ht'
      rcases List.mem_append.1 ht' with ht' | ht'
      · exact ih t' ht'
      · cases List.mem_singleton.1 ht'
        cases hk : t.status.isTerminal with
        | false => rfl
        | true => rw [hk] at hn; cases hn

/-! ## Ends of the poller -/

/-- How a poller ended by the last snapshot of its job, if that is what ended it. -/
inductive Verdict (last : JobSnapshot → Prop) (s : PollerState) : Prop where
  | told {t : JobSnapshot} (hl : last t) (ht : t.status.isTerminal = true)
      (hp : s.phase = .ofStatus t.status)
      (hr : t.status = .completed → s.job.bind (·.result) = t.result)
  | untold (hn : ∀ t, ¬ last t) (hp : s.phase = .failed)

/-- The reply that ends the job is a snapshot that reports an end, or else the poller fails. -/
theorem EndsWith.verdict {n : Nat} {s : PollerState}
    (h : EndsWith c budget request replies jobId n)
    (he : Poller.ending? budget (results c jobId replies n) = some (s.phase, s.error))
    (hj : s.job = some (Poller.jobOf jobId (results c jobId replies n))) :
    Verdict (LastTells c budget request replies) s := by
  cases n with
  | zero => cases he
  | succ n =>
    rw [results_succ] at he hj
    rcases Poller.phase_of_ending? he with ⟨t, hx, ht, hp⟩ | ⟨⟨f, hx⟩, hp⟩
    · refine .told ⟨jobId, n + 1, h, polled_eq_ok_iff.1 hx⟩ ht hp fun hk => ?_
      have hb := live_of_going fun k hk => h.going k (Nat.lt_succ_of_le hk)
      rw [hj, hx, Poller.jobOf, Poller.snapshots_ok, (Job.applyAll_eq_concluded jobId hb ht []).1,
        Option.bind_some, Job.concluded]
      exact if_pos hk
    · refine .untold ?_ hp
      rintro t ⟨jobId', n', h', ht⟩
      obtain ⟨rfl, rfl⟩ := h.unique h'
      cases hx.symm.trans (polled_eq_ok_iff.2 ht)

theorem not_accepts_of_refused {f : Failure}
    (h : (server c request replies).submission = .error f) (jobId : String) :
    ¬ Accepts c request (replies 0) jobId :=
  fun ha => by cases (submitted_eq_ok_iff.2 ha).symm.trans h

/-- A poller that is at its end was brought there by the replies. -/
theorem Going.verdict {p : Poller ScanRequest} (h : Going c request replies budget p)
    (ht : p.phase.isTerminal = true) :
    Ends c budget request replies ∧
      Verdict (LastTells c budget request replies) p.state.value := by
  rcases h.stands with ⟨-, -, hp | hp⟩ | ⟨f, hs, -, hv⟩ | ⟨jobId, hs, ho⟩
  · rw [hp] at ht; cases ht
  · rw [hp] at ht; cases ht
  · have hn := not_accepts_of_refused hs
    refine ⟨.inl hn, .untold ?_ (by rw [hv])⟩
    rintro t ⟨jobId, n, he, -⟩
    exact hn jobId he.accepted
  · obtain ⟨hj, hb, hl, hd⟩ := ho
    simp only [results_server hs] at hj hb hl hd
    cases he : Poller.ending? budget (results c jobId replies p.taken) with
    | none =>
      obtain ⟨hp | hp, -⟩ := hl he
      · rw [hp] at ht; cases ht
      · rw [hp] at ht; cases ht
    | some ending =>
      obtain ⟨phase, error⟩ := ending
      obtain ⟨rfl, rfl, -⟩ := hd phase error he
      have hw : EndsWith c budget request replies jobId p.taken :=
        ⟨submitted_eq_ok_iff.1 hs, hb, by rw [he]; rfl⟩
      exact ⟨.inr ⟨jobId, p.taken, hw⟩, hw.verdict he hj⟩

/-! ## Progress -/

namespace Run

/-- The run of the poller of a scan. -/
def inner (r : Run) : Poller.Run ScanRequest :=
  { poller := r.scan.poller, now := r.now }

theorem inner_turns (c : Client) (request : ScanRequest) (replies : Replies) (k : Nat) (r : Run) :
    (r.after c replies (.replicate k .turn)).inner =
      r.inner.after (server c request replies) (.replicate k .turn) := by
  induction k generalizing r with
  | zero => rfl
  | succ k ih =>
    have hs : (r.step c replies .turn).inner =
        r.inner.step (server c request replies) .turn := by
      simp only [step, Scan.turn, inner, Poller.Run.step]
      cases r.scan.poller.turn r.now <;> rfl
    rw [List.replicate_succ, List.replicate_succ, after_cons, Poller.Run.after_cons, ← hs]
    exact ih _

/-- The answer to the last call, and some turns after it. -/
theorem inner_answered {r : Run} (h : Calling c request replies r.scan.poller)
    (ht : r.scan.poller.task.hasStarted = true) (k : Nat) :
    (r.after c replies (.answered :: .replicate k .turn)).inner =
      r.inner.after (server c request replies)
        ((if r.scan.poller.polls = 0 then .submissionAnswered else .pollAnswered) ::
          .replicate k .turn) := by
  rw [after_cons, inner_turns c request replies, Poller.Run.after_cons]
  congr 1
  simp only [step, inner, h.respond ht]
  split <;> rfl

/-- Whether something can happen that brings the end of a scan. -/
def ComesToEnd (c : Client) (replies : Replies) (r : Run) : Prop :=
  ∃ more, (r.after c replies more).scan.ending.isSome = true

theorem ComesToEnd.of_after {r : Run} (es : List Event)
    (h : ComesToEnd c replies (r.after c replies es)) : ComesToEnd c replies r := by
  obtain ⟨more, h⟩ := h
  exact ⟨es ++ more, by rwa [after_append]⟩

theorem ComesToEnd.of_ending {r : Run} (h : r.scan.ending.isSome = true) :
    ComesToEnd c replies r :=
  ⟨[], h⟩

/-- The end of the poller is noted at the next look. -/
theorem comesToEnd_of_terminal {r : Run} (h : r.scan.poller.phase.isTerminal = true) :
    ComesToEnd c replies r := by
  refine ⟨[.look], ?_⟩
  show r.scan.look.ending.isSome = true
  unfold Scan.look
  cases he : r.scan.ending with
  | none => simp [h]
  | some ending => simp [he]

/-- As long as a job is followed, the answer to the poll under way is taken next, or the next poll
is made. -/
theorem exists_advance {r : Run} {t : Poller.Tracking}
    (h : Going c request replies budget r.scan.poller) (ht : r.scan.poller.task = .tracking t) :
    ∃ es, r.scan.poller.polls = r.scan.poller.taken + 1 ∧
        (r.after c replies es).scan.poller.taken = r.scan.poller.taken + 1 ∨
      r.scan.poller.polls = r.scan.poller.taken ∧
        (r.after c replies es).scan.poller.polls = r.scan.poller.taken + 1 := by
  rcases Poller.Run.advances_of_tracking (r := r.inner) h.aligned h.disposed ht with
    ⟨hp, k, hk⟩ | ⟨hp, ms, k, hk⟩
  · have hi := inner_answered h.toCalling (by rw [ht]; rfl) k
    rw [if_neg (by show r.inner.poller.polls ≠ 0; omega)] at hi
    exact ⟨.answered :: .replicate k .turn, .inl ⟨hp, (congrArg (·.poller.taken) hi).trans hk⟩⟩
  · have hi := inner_turns c request replies k (r.step c replies (.pass ms))
    exact ⟨.pass ms :: .replicate k .turn, .inr ⟨hp, (congrArg (·.poller.polls) hi).trans hk⟩⟩

/-- A job that is followed comes to its end, poll by poll. -/
theorem comesToEnd_of_outcome {n : Nat} (he : EndsWith c budget request replies jobId n) {r : Run}
    (hr : r.scan.ending = none) (h : Going c request replies budget r.scan.poller)
    (ho : Poller.Outcome (server c request replies) budget jobId r.scan.poller) :
    ComesToEnd c replies r := by
  have hs : (server c request replies).submission = .ok jobId := submitted_eq_ok_iff.2 he.accepted
  -- How many polls are yet to be made, and how many answers are yet to be taken.
  induction hm : 2 * n - (r.scan.poller.taken + r.scan.poller.polls) using Nat.strong_induction_on
    generalizing r with
  | _ m ih =>
    obtain ⟨-, hb, hl, hd⟩ := ho
    simp only [results_server hs] at hb hl hd
    cases hk : Poller.ending? budget (results c jobId replies r.scan.poller.taken) with
    | some ending =>
      obtain ⟨phase, error⟩ := ending
      obtain ⟨hp, -⟩ := hd phase error hk
      exact comesToEnd_of_terminal (hp ▸ Poller.isTerminal_of_ending? hk)
    | none =>
      have hlt : r.scan.poller.taken < n := by
        rcases Nat.lt_trichotomy r.scan.poller.taken n with hlt | heq | hgt
        · exact hlt
        · exact absurd he.ends (by rw [← heq, hk]; decide)
        · exact absurd he.ends (by rw [hb n hgt]; decide)
      obtain ⟨t, ht⟩ := h.exists_tracking (hl hk)
      obtain ⟨es, hn⟩ := exists_advance h ht
      refine .of_after es ?_
      have hst := stage_after (.going hr h) es
      generalize r.after c replies es = r' at hn hst ⊢
      have hq := r'.scan.poller.taken_le_polls
      cases hst with
      | ended h' ht' he' => exact .of_ending (by rw [he']; rfl)
      | going hr' h' =>
        obtain ⟨jobId', hs', ho'⟩ := h'.outcome_of_polled (by omega)
        obtain rfl : jobId' = jobId := Except.ok.inj (hs'.symm.trans hs)
        exact ih _ (by omega) hr' h' ho' rfl

/-- The submission under way is answered, and the answer is taken. -/
theorem phase_submission_answered {r : Run} (h : Going c request replies budget r.scan.poller)
    (ht : r.scan.poller.task = .submitting none) :
    (r.after c replies [.answered, .turn]).scan.poller.phase =
      Poller.Run.submittedPhase (server c request replies).submission := by
  have hi := inner_answered h.toCalling (by rw [ht]; rfl) 1
  obtain ⟨-, hz, -⟩ := h.aligned.submitting ht
  rw [if_pos hz, Poller.Run.after_cons] at hi
  have hs : (r.inner.step (server c request replies) .submissionAnswered).poller =
      { r.scan.poller with
        task := .submitting (some (server c request replies).submission) } := by
    simp only [Poller.Run.step, inner, Poller.answer, ht]
  exact (congrArg (·.poller.phase) hi).trans
    (Poller.Run.phase_submission_taken (by rw [hs]; exact h.disposed) (by rw [hs]))

/-- The submission is made, if it has not been, and its answer is taken. -/
theorem exists_submitted {r : Run} (h : Going c request replies budget r.scan.poller)
    (hp : r.scan.poller.phase = .idle ∨ r.scan.poller.phase = .submitting) :
    ∃ es, (r.after c replies es).scan.poller.phase =
      Poller.Run.submittedPhase (server c request replies).submission := by
  have early : r.scan.poller.phase.isTerminal = false ∧
      ¬ (r.scan.poller.phase = .polling ∨ r.scan.poller.phase = .cancelling) := by
    rcases hp with hp | hp <;> rw [hp] <;> decide
  cases ht : r.scan.poller.task with
  | unstarted =>
    rcases h.calls with ⟨hk, -⟩ | ⟨hk, -⟩
    · cases ht.symm.trans hk
    · rw [ht] at hk; cases hk
  | starting request' =>
    have hto := Poller.turn_of_starting r.now h.disposed ht
    refine ⟨[.turn, .answered, .turn], ?_⟩
    rw [after_cons, step, Scan.turn, hto]
    exact phase_submission_answered (h.turn hto) rfl
  | submitting result =>
    cases result with
    | none => exact ⟨_, phase_submission_answered h ht⟩
    | some x =>
      obtain ⟨-, -, hx⟩ := h.aligned.submitting ht
      refine ⟨[.turn], (congrArg (·.poller.phase) (inner_turns c request replies 1 r)).trans ?_⟩
      exact Poller.Run.phase_submission_taken h.disposed (hx x rfl ▸ ht)
  | tracking t => exact absurd (h.aligned.tracking ht).1.phase early.2
  | ended => exact absurd (h.isTerminal_of_ended ht) (by rw [early.1]; decide)

theorem comesToEnd_of_submitted {r : Run} (h : Stage c request replies budget r.scan)
    (he : Ends c budget request replies)
    (hp : ¬ (r.scan.poller.phase = .idle ∨ r.scan.poller.phase = .submitting)) :
    ComesToEnd c replies r := by
  cases h with
  | ended h ht he => exact .of_ending (by rw [he]; rfl)
  | going hr h =>
    rcases h.stands with ⟨-, -, hp'⟩ | ⟨f, -, -, hv⟩ | ⟨jobId, hs, ho⟩
    · exact absurd hp' hp
    · exact comesToEnd_of_terminal (by rw [Poller.phase, hv]; rfl)
    · rcases he with hn | ⟨jobId', n, he⟩
      · exact absurd (submitted_eq_ok_iff.1 hs) (hn jobId)
      · obtain rfl : jobId' = jobId :=
          Except.ok.inj ((submitted_eq_ok_iff.2 he.accepted).symm.trans hs)
        exact comesToEnd_of_outcome he hr h ho

/-- A scan that the replies bring to an end comes to it, wherever it stands. -/
theorem comesToEnd {r : Run} (h : Stage c request replies budget r.scan)
    (he : Ends c budget request replies) : ComesToEnd c replies r := by
  by_cases hp : r.scan.poller.phase = .idle ∨ r.scan.poller.phase = .submitting
  · cases h with
    | ended h ht he => exact .of_ending (by rw [he]; rfl)
    | going hr h =>
      obtain ⟨es, hp'⟩ := exists_submitted h hp
      refine .of_after es (comesToEnd_of_submitted (stage_after (.going hr h) es) he ?_)
      rw [hp']
      cases (server c request replies).submission <;> simp [Poller.Run.submittedPhase]
  · exact comesToEnd_of_submitted h he hp

end Run

/-! ## Outcomes -/

/-- A scan of a blank path makes no request. -/
theorem Going.no_request_of_blank {p : Poller ScanRequest}
    (h : Going c request replies budget p) (hb : Text.isBlankText request.path = true) :
    p.calls.filterMap (request? c ·.2) = [] := by
  have hs := Client.Checked.submitScan_of_blank c hb
  rcases h.calls with ⟨-, hc⟩ | ⟨-, polls, hc, hall⟩
  · rw [hc]; rfl
  · have hn : polls = [] := by
      refine List.eq_nil_iff_forall_not_mem.2 fun call hm => ?_
      obtain ⟨jobId, hj, -⟩ := hall call hm
      rw [server, hs] at hj
      cases hj
    obtain ⟨⟨instant, call⟩, hk, rfl⟩ := List.map_eq_singleton_iff.1 (hn ▸ hc)
    rw [hk]
    simp [request?, hs, Except.toOption]

/-- What the one who follows a scan notes of its end, by the last snapshot of the job. -/
inductive Noted (last : JobSnapshot → Prop) (s : PollerState) : Ending → Prop where
  | completed {t : JobSnapshot} (hl : last t) (ht : t.status = .completed) :
      Noted last s (.completed t.result)
  | cancelled {t : JobSnapshot} (hl : last t) (ht : t.status = .cancelled) : Noted last s .cancelled
  | failed {reason : String} (hn : ∀ t, last t → t.status = .failed)
      (he : s.error = some reason) : Noted last s (.failed reason)

theorem Verdict.noted {s : PollerState} (h : Verdict (LastTells c budget request replies) s)
    (he : s.error.isSome = true ↔ s.phase = .failed) :
    Noted (LastTells c budget request replies) s (.ofState s) := by
  have failed : s.phase = .failed →
      (∀ t, LastTells c budget request replies t → t.status = .failed) →
      Noted (LastTells c budget request replies) s (.ofState s) := by
    intro hp hn
    obtain ⟨reason, hr⟩ := Option.isSome_iff_exists.1 (he.2 hp)
    rw [Ending.ofState, hp, hr]
    exact .failed hn hr
  cases h with
  | untold hn hp => exact failed hp fun t ht => absurd ht (hn t)
  | @told t hl ht hp hr =>
    cases hk : t.status with
    | pending | running => rw [hk] at ht; cases ht
    | completed =>
      rw [hk] at hp
      rw [Ending.ofState, hp]
      show Noted _ _ (.completed (s.job.bind (·.result)))
      rw [hr hk]
      exact .completed hl hk
    | cancelled =>
      rw [hk] at hp
      rw [Ending.ofState, hp]
      exact .cancelled hl hk
    | failed =>
      rw [hk] at hp
      exact failed hp fun t' ht' => hl.unique ht' ▸ hk

/-- The message of a failed scan is never that of a cancelled one. -/
theorem failed_ne_cancelled (reason : String) : s!"scan failed: {reason}" ≠ "scan cancelled" := by
  intro h
  have h := congrArg String.toList h
  simp [toString] at h

/-- A snapshot that ended a job carries no result that is `null`. -/
theorem LastTells.result_ne_null {t : JobSnapshot} (h : LastTells c budget request replies t) :
    t.result ≠ some .null := by
  obtain ⟨jobId, n, -, ht⟩ := h
  exact ht.result_ne_null

/-- What the program leaves behind when a scan ends so, if `last` holds of the snapshot that ended
the job, and `error` is the reason that the poller recorded. -/
structure Ending.LeavesBehind (last : JobSnapshot → Prop) (error : Option String)
    (ending : Ending) : Prop where
  succeeds_iff : (Program.ofScan ending).exitCode = 0 ↔ ∃ t, last t ∧ t.status = .completed
  result_ne_null : ∀ t, last t → t.status = .completed → t.result ≠ some .null
  /-- The result is printed, if there is one, and nothing else. -/
  prints : ∀ t, last t → t.status = .completed →
    Program.ofScan ending = { stdout := (t.result.map fun v => v.prettyText ++ "\n").getD "" }
  quiet : (Program.ofScan ending).exitCode ≠ 0 → (Program.ofScan ending).stdout = ""
  cancelled_iff : ending.failure? = some "scan cancelled" ↔ ∃ t, last t ∧ t.status = .cancelled
  failed : (¬ ∃ t, last t ∧ (t.status = .completed ∨ t.status = .cancelled)) →
    ∃ reason, error = some reason ∧ ending.failure? = some s!"scan failed: {reason}"

theorem Noted.leavesBehind {s : PollerState} {ending : Ending}
    (h : Noted (LastTells c budget request replies) s ending) :
    ending.LeavesBehind (LastTells c budget request replies) s.error := by
  have only : ∀ {t t' : JobSnapshot} {k : JobStatus},
      LastTells c budget request replies t → t.status = k →
      LastTells c budget request replies t' → t'.status = k := by
    rintro t t' _ hl rfl hl'
    rw [hl'.unique hl]
  cases h with
  | @completed t hl ht =>
    refine {
      succeeds_iff := ⟨fun _ => ⟨t, hl, ht⟩, fun _ => rfl⟩
      result_ne_null := fun _ hl' _ => hl'.result_ne_null
      prints := fun t' hl' _ => ?_
      quiet := fun hn => absurd rfl hn
      cancelled_iff := ⟨fun hf => (by cases hf), ?_⟩
      failed := fun hn => absurd ⟨t, hl, .inl ht⟩ hn }
    · obtain rfl := hl.unique hl'
      simp only [Program.ofScan, Ending.failure?]
      cases t.result <;> rfl
    · rintro ⟨t', hl', ht'⟩
      cases (only hl ht hl').symm.trans ht'
  | @cancelled t hl ht =>
    refine {
      succeeds_iff := ⟨fun he => (by cases he), ?_⟩
      result_ne_null := fun _ hl' _ => hl'.result_ne_null
      prints := fun t' hl' ht' => ?_
      quiet := fun _ => rfl
      cancelled_iff := ⟨fun _ => ⟨t, hl, ht⟩, fun _ => rfl⟩
      failed := fun hn => absurd ⟨t, hl, .inr ht⟩ hn }
    · rintro ⟨t', hl', ht'⟩
      cases (only hl ht hl').symm.trans ht'
    · cases (only hl ht hl').symm.trans ht'
  | @failed reason hn he =>
    refine {
      succeeds_iff := ⟨fun he => (by cases he), ?_⟩
      result_ne_null := fun _ hl' _ => hl'.result_ne_null
      prints := fun t hl ht => ?_
      quiet := fun _ => rfl
      cancelled_iff := ⟨fun hf => ?_, ?_⟩
      failed := fun _ => ⟨reason, he, rfl⟩ }
    · rintro ⟨t, hl, ht⟩
      cases ht.symm.trans (hn t hl)
    · cases ht.symm.trans (hn t hl)
    · exact absurd (Option.some.inj hf) (failed_ne_cancelled reason)
    · rintro ⟨t, hl, ht⟩
      cases ht.symm.trans (hn t hl)

/-- What a run of a scan comes to. -/
structure Run.IsDecided (c : Client) (budget : Option UInt32) (request : ScanRequest)
    (replies : Replies) (r : Run) : Prop where
  /-- A scan of a blank path makes no request. -/
  blank : Text.isBlankText request.path = true →
    r.scan.poller.calls.filterMap (request? c ·.2) = []
  comesToEnd : Ends c budget request replies →
    ∃ more, (r.after c replies more).scan.ending.isSome = true
  ends : ∀ ending, r.scan.ending = some ending → Ends c budget request replies
  leavesBehind : ∀ ending, r.scan.ending = some ending →
    ending.LeavesBehind (LastTells c budget request replies) r.scan.poller.state.value.error

/-- The replies of the server decide how the program ends after a scan that is not interrupted,
whenever they come and whenever the one who follows the scan looks. All went well just when the
server accepted the scan and the reply that ends the job tells that it is completed; then its result
is printed, if it has one. If that reply tells that the job was cancelled, that is what is said;
else it is the reason that the poller recorded. A scan of a blank path makes no request. A rehearsal
against the first of the replies is one of the runs. -/
theorem replies_decide_exit (c : Client) (settings : PollSettings) (h : 0 < settings.intervalMs)
    (request : ScanRequest) (replies : Replies) :
    ∃ s, start settings request = .ok s ∧
      (∀ es, (Run.after c replies { scan := s } es).IsDecided c settings.maxConsecutiveFailures
        request replies) ∧
      ∀ n, ∃ es, run c settings request ((List.range n).map replies) =
        .ok (Run.after c replies { scan := s } es).scan := by
  obtain ⟨p, hp⟩ := Poller.ofSettings_of_pos (ρ := ScanRequest) h
  have hs : start settings request = .ok { poller := (p.submit request).1 } := by
    rw [start, hp]
    rfl
  refine ⟨_, hs, fun es => ?_, Run.exists_after_eq_run hs c replies⟩
  have hst : Stage c request replies settings.maxConsecutiveFailures
      (Run.after c replies { scan := { poller := (p.submit request).1 } } es).scan :=
    Run.stage_after (stage_of_start hs) es
  generalize Run.after c replies _ es = r at hst ⊢
  cases hst with
  | going he h =>
    have going : ∀ {ending} {P : Prop}, r.scan.ending = some ending → P := by
      intro ending P hending
      cases he.symm.trans hending
    exact ⟨h.no_request_of_blank, Run.comesToEnd (.going he h), fun _ => going, fun _ => going⟩
  | @ended p h ht he hd hs hc =>
    obtain ⟨hends, hv⟩ := h.verdict ht
    refine ⟨fun hb => ?_, Run.comesToEnd (.ended h ht he hd hs hc), fun _ _ => hends,
      fun ending hending => ?_⟩
    · rw [hc]
      exact h.no_request_of_blank hb
    · obtain rfl : Ending.ofState p.state.value = ending := Option.some.inj (he.symm.trans hending)
      rw [hs]
      exact (hv.noted h.aligned.coherent.error_iff).leavesBehind

/-- Replies of a server that has found one file when it is polled for the first time. -/
def oneFileFound : Replies
  | 0 => some ⟨202, .complete (Bytes.ofText "\x7b\"job_id\":\"j1\"\x7d")⟩
  | 1 => some ⟨200, .complete (Bytes.ofText
      "\x7b\"job_id\":\"j1\",\"status\":\"COMPLETE\",\"result\":[\"a.mp4\"]\x7d")⟩
  | _ => none

theorem accepts_oneFileFound :
    Accepts Client.loopback { path := " /media " } (oneFileFound 0) "j1" where
  path := by decide
  request := by decide +kernel
  reply := ⟨_, rfl, by decide, by decide +kernel⟩

theorem exists_tells_oneFileFound :
    ∃ t, Tells Client.loopback "j1" (oneFileFound 1) t ∧ t.status = .completed ∧
      t.result.map (·.prettyText) = some "[\n  \"a.mp4\"\n]" := by
  have h : (oneFileFound 1).bind (fun r => (r.document? JobSnapshot.decoder).map fun t =>
      (t.status, t.result.map (·.prettyText))) = some (.completed, some "[\n  \"a.mp4\"\n]") := by
    decide +kernel
  obtain ⟨r, hr, h⟩ := Option.bind_eq_some_iff.1 h
  obtain ⟨t, ht, h⟩ := Option.map_eq_some_iff.1 h
  obtain ⟨hs, hp⟩ := Prod.mk.inj h
  refine ⟨t, ⟨by decide, by decide +kernel, r, hr, ?_, ht⟩, hs, hp⟩
  cases hr
  rfl

/-- A scan that finds one file ends well, and the file is printed. -/
theorem replies_decide_exit_oneFileFound :
    (0 : UInt64) < ({} : PollSettings).intervalMs ∧
      ∃ s, start {} { path := " /media " } = .ok s ∧ ∃ es,
        (Run.after Client.loopback oneFileFound { scan := s } es).scan.ending.map
          Program.ofScan = some { stdout := "[\n  \"a.mp4\"\n]\n" } := by
  obtain ⟨s, hs, h, -⟩ := replies_decide_exit Client.loopback {} (by decide) { path := " /media " }
    oneFileFound
  obtain ⟨t, ht, hk, hp⟩ := exists_tells_oneFileFound
  have he : EndsWith Client.loopback none { path := " /media " } oneFileFound "j1" 1 := by
    refine ⟨accepts_oneFileFound, fun k hn => ?_, ?_⟩
    · obtain rfl : k = 0 := by omega
      rfl
    · rw [results_succ, polled_eq_ok_iff.2 ht, Poller.ending?_ok, hk]
      rfl
  obtain ⟨es, hes⟩ := (h []).comesToEnd (.inr ⟨_, _, he⟩)
  obtain ⟨ending, hending⟩ := Option.isSome_iff_exists.1 hes
  have ho := ((h es).leavesBehind ending hending).prints t ⟨_, _, he, ht⟩ hk
  obtain ⟨v, hv, hp⟩ := Option.map_eq_some_iff.1 hp
  refine ⟨by decide, s, hs, es, ?_⟩
  rw [show (Run.after Client.loopback oneFileFound { scan := s } es).scan.ending = some ending
    from hending, Option.map_some, ho, hv, Option.map_some, hp]
  rfl

end BackendMonitor.Scan
