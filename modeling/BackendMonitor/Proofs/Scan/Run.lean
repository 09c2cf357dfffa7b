import BackendMonitor.Proofs.Poller.Outcome
import BackendMonitor.Proofs.Poller.Teardown
import BackendMonitor.Proofs.Scan.Replies

/-!
# Runs of a scan

A scan that nobody interrupts, under a clock. What comes of each of its requests is fixed beforehand
(`Replies`); when it comes, when the poller takes its turns, and when the one who follows the scan
looks, is a matter of the run.

* `server`: what the replies are to the poller;
* `Going`: what every step keeps until the end is noted;
* `Stage`: the end is noted at most once, and then nothing changes any more;
* `Run.stage_after`: where a scan stands after any run.
-/

namespace BackendMonitor.Scan

open Http

/-- What comes of the requests of a scan, if anything comes: of the submission first, and then of
the polls, which are counted from one. -/
abbrev Replies := Nat → Option Response

/-- What the poller of a scan is answered. -/
def server (c : Client) (request : ScanRequest) (replies : Replies) : Poller.Server where
  submission := carryOut (fun _ => replies 0) (Client.Checked.submitScan c request)
  status n :=
    (carryOut (fun _ => replies 0) (Client.Checked.submitScan c request)).bind fun jobId =>
      carryOut (fun _ => replies n) (Client.Checked.jobStatus c jobId)
  cancel _ := .ok ()

/-- What can happen to a scan that is not interrupted. -/
inductive Event where
  /-- The poller takes a turn. -/
  | turn
  /-- The last call of the poller is answered. -/
  | answered
  /-- The one who follows the scan looks. -/
  | look
  /-- Time passes, in milliseconds. -/
  | pass (ms : Nat)

/-- A scan under a clock. -/
structure Run where
  scan : Scan
  now : Nat := 0

namespace Run

/-- One thing happens. -/
def step (c : Client) (replies : Replies) (r : Run) : Event → Run
  | .turn => { r with scan := (r.scan.turn r.now).getD r.scan }
  | .answered =>
    { r with scan := r.scan.respond c (replies (r.scan.poller.calls.length - 1)) }
  | .look => { r with scan := r.scan.look }
  | .pass ms => { r with now := r.now + ms }

/-- What a run leads to. -/
def after (c : Client) (replies : Replies) (r : Run) (es : List Event) : Run :=
  es.foldl (step c replies) r

@[simp] theorem after_cons (c : Client) (replies : Replies) (r : Run) (e : Event)
    (es : List Event) : r.after c replies (e :: es) = (r.step c replies e).after c replies es :=
  rfl

theorem after_append (c : Client) (replies : Replies) (r : Run) (es fs : List Event) :
    r.after c replies (es ++ fs) = (r.after c replies es).after c replies fs :=
  List.foldl_append

end Run

variable {c : Client} {request : ScanRequest} {replies : Replies} {budget : Option UInt32}

/-! ## Calls -/

/-- A poller that is never asked to cancel: it calls for the submission of `request` first, and from
then on for the status of the job that was accepted. -/
structure Calling (c : Client) (request : ScanRequest) (replies : Replies)
    (p : Poller ScanRequest) : Prop where
  cancels : p.cancels = 0
  calls : p.task = .starting request ∧ p.calls = [] ∨
    p.task.hasStarted = true ∧ ∃ polls, p.calls.map (·.2) = polls ++ [.submit request] ∧
      ∀ call ∈ polls, ∃ jobId, (server c request replies).submission = .ok jobId ∧
        call = .status jobId

/-- The calls of a task that has taken its first turn. -/
theorem Calling.started {p : Poller ScanRequest} (h : Calling c request replies p)
    (ht : p.task.hasStarted = true) :
    ∃ polls, p.calls.map (·.2) = polls ++ [.submit request] ∧
      ∀ call ∈ polls, ∃ jobId, (server c request replies).submission = .ok jobId ∧
        call = .status jobId := by
  rcases h.calls with ⟨hs, -⟩ | ⟨-, hc⟩
  · rw [hs] at ht; cases ht
  · exact hc

theorem Calling.congr {p p' : Poller ScanRequest} (h : Calling c request replies p)
    (hn : p'.cancels = p.cancels) (hc : p'.calls = p.calls)
    (ht : p'.task = p.task ∨ p.task.hasStarted = true ∧ p'.task.hasStarted = true) :
    Calling c request replies p' := by
  refine ⟨hn.trans h.cancels, ?_⟩
  rw [hc]
  rcases ht with ht | ⟨ht, ht'⟩
  · rw [ht]; exact h.calls
  · exact .inr ⟨ht', h.started ht⟩

theorem Calling.turn {now : Nat} {p p' : Poller ScanRequest} (h : Calling c request replies p)
    (hd : p.disposed = false) (ha : Poller.Aligned (server c request replies) p)
    (ht : Poller.Turn now p p') : Calling c request replies p' := by
  have hs : p'.task.hasStarted = true := (ht.submits ha).2.1
  have same : p'.cancels = p.cancels → p'.calls = p.calls → p.task.hasStarted = true →
      Calling c request replies p' := fun hn hc hp => h.congr hn hc (.inr ⟨hp, hs⟩)
  have hn := h.cancels
  cases ht with
  | stop hd' => cases hd.symm.trans hd'
  | @submit request' _ ht =>
    obtain ⟨hq, hc⟩ : p.task = .starting request ∧ p.calls = [] := by
      refine h.calls.resolve_right fun hk => ?_
      rw [ht] at hk
      cases hk.1
    obtain rfl : request' = request := by
      rw [ht] at hq
      injection hq
    exact ⟨hn, .inr ⟨rfl, [], by simp [hc], fun call hm => (by cases hm)⟩⟩
  | refused _ ht | accepted _ ht | cancelled _ ht | resume _ ht =>
    exact same rfl rfl (by rw [ht]; rfl)
  | ignore _ ht hc | askCancel _ ht hc => omega
  | polled _ ht hc hr =>
    obtain ⟨job, -, hp⟩ := ha.polled hd ht hr
    exact same hp.cancels hp.frame.1 (by rw [ht]; rfl)
  | @poll t _ ht hc hp =>
    obtain ⟨-, hj, -⟩ := ha.tracking ht
    obtain ⟨polls, hc, hall⟩ := h.started (by rw [ht]; rfl)
    refine ⟨hn, .inr ⟨rfl, .status t.jobId :: polls, by simp [hc], ?_⟩⟩
    rintro call (_ | ⟨_, hm⟩)
    · exact ⟨t.jobId, hj, rfl⟩
    · exact hall call hm

theorem Calling.answer {p : Poller ScanRequest} (h : Calling c request replies p)
    (a : Poller.Answer) : Calling c request replies (p.answer a) := by
  have hf := Poller.answer_eq a p
  refine h.congr (by rw [hf]) (by rw [hf]) ?_
  unfold Poller.answer
  split
  · next ht => exact .inr ⟨by rw [ht]; rfl, rfl⟩
  · next ht => exact .inr ⟨by rw [ht]; rfl, rfl⟩
  · next ht => exact .inr ⟨by rw [ht]; rfl, rfl⟩
  · exact .inl rfl

/-- The number of the last call: the polls are counted from one, and the submission comes before
them. -/
theorem Calling.polls_eq {p : Poller ScanRequest} (h : Calling c request replies p) :
    p.polls = p.calls.length - 1 := by
  rcases h.calls with ⟨-, hc⟩ | ⟨-, polls, hc, hall⟩
  · simp [Poller.polls, hc]
  · have hp : polls.countP (·.isPoll) = polls.length := by
      refine List.countP_eq_length.2 fun call hm => ?_
      obtain ⟨jobId, -, rfl⟩ := hall call hm
      rfl
    have hl := congrArg List.length hc
    have hn := congrArg (List.countP (·.isPoll)) hc
    rw [List.countP_map, List.countP_append, hp] at hn
    simp only [List.length_map, List.length_append, List.length_singleton] at hl
    rw [hl]
    exact hn

/-- To answer the last call is to answer the submission, or the last poll. -/
theorem Calling.respond {s : Scan} (h : Calling c request replies s.poller)
    (ht : s.poller.task.hasStarted = true) :
    s.respond c (replies (s.poller.calls.length - 1)) =
      { s with
        poller := s.poller.answer
          (if s.poller.polls = 0 then .submitted (server c request replies).submission
          else .status ((server c request replies).status s.poller.polls)) } := by
  have hn := h.polls_eq
  obtain ⟨polls, hc, hall⟩ := h.started ht
  rw [← hn]
  cases polls with
  | nil =>
    obtain ⟨⟨instant, call⟩, hk, rfl⟩ := List.map_eq_singleton_iff.1 hc
    have hz : s.poller.polls = 0 := by rw [hn, hk]; rfl
    rw [Scan.respond, hk, hz]
    rfl
  | cons call polls =>
    obtain ⟨jobId, hj, rfl⟩ := hall call List.mem_cons_self
    obtain ⟨⟨instant, call⟩, rest, hk, rfl, hr⟩ := List.map_eq_cons_iff.1 hc
    have hz : s.poller.polls ≠ 0 := by
      have hl : rest.length = polls.length + 1 := by simpa using congrArg List.length hr
      rw [hn, hk, List.length_cons]
      omega
    have hs : (server c request replies).status s.poller.polls =
        carryOut (fun _ => replies s.poller.polls) (Client.Checked.jobStatus c jobId) := by
      have hj : carryOut (fun _ => replies 0) (Client.Checked.submitScan c request) = .ok jobId :=
        hj
      simp only [server, hj]
      rfl
    rw [Scan.respond, hk, if_neg hz, hs]
    rfl

/-! ## Steps -/

/-- What every step keeps as long as the end is not noted. -/
structure Going (c : Client) (request : ScanRequest) (replies : Replies)
    (budget : Option UInt32) (p : Poller ScanRequest) : Prop
    extends Poller.Faithful (server c request replies) budget p, Calling c request replies p

theorem Going.turn {now : Nat} {p p' : Poller ScanRequest}
    (h : Going c request replies budget p) (ht : p.turn now = some p') :
    Going c request replies budget p' := by
  have hf := Poller.Run.faithful_step { poller := p, now := now } .turn rfl h.toFaithful
  simp only [Poller.Run.step, ht, Option.getD_some] at hf
  exact ⟨hf, h.toCalling.turn h.disposed h.aligned (Poller.turn_eq_some ht)⟩

theorem Going.respond {s : Scan} (h : Going c request replies budget s.poller) :
    Going c request replies budget
      (s.respond c (replies (s.poller.calls.length - 1))).poller := by
  cases ht : s.poller.task.hasStarted with
  | false =>
    rcases h.calls with ⟨-, hc⟩ | ⟨ht', -⟩
    · rw [Scan.respond, hc]; exact h
    · cases ht.symm.trans ht'
  | true =>
    rw [h.toCalling.respond ht]
    refine ⟨?_, h.toCalling.answer _⟩
    split
    · exact Poller.Run.faithful_step { poller := s.poller } .submissionAnswered rfl h.toFaithful
    · exact Poller.Run.faithful_step { poller := s.poller } .pollAnswered rfl h.toFaithful

/-- How far a scan has come: it goes on, or its end was noted, and it is as it was then. -/
inductive Stage (c : Client) (request : ScanRequest) (replies : Replies)
    (budget : Option UInt32) (s : Scan) : Prop where
  | going (he : s.ending = none) (h : Going c request replies budget s.poller)
  | ended {p : Poller ScanRequest} (h : Going c request replies budget p)
      (ht : p.phase.isTerminal = true) (he : s.ending = some (.ofState p.state.value))
      (hd : s.poller.disposed = true) (hs : s.poller.state = p.state)
      (hc : s.poller.calls = p.calls)

/-- The end is noted once. -/
theorem Stage.look {s : Scan} (h : Stage c request replies budget s) :
    Stage c request replies budget s.look := by
  unfold Scan.look
  split
  · next hl =>
    obtain ⟨hn, ht⟩ : s.ending.isNone = true ∧ s.poller.phase.isTerminal = true := by
      simpa using hl
    cases h with
    | going he h => exact .ended h ht rfl rfl rfl rfl
    | ended h ht he => rw [he] at hn; cases hn
  · exact h

namespace Run

/-- A step goes on with a scan, or notes its end; after that it changes nothing. -/
theorem stage_step (r : Run) (e : Event) (h : Stage c request replies budget r.scan) :
    Stage c request replies budget (r.step c replies e).scan := by
  cases e with
  | look => exact h.look
  | pass ms => exact h
  | turn =>
    simp only [step, Scan.turn]
    cases h with
    | going he h =>
      cases ht : r.scan.poller.turn r.now with
      | none => exact .going he h
      | some p => exact .going he (h.turn ht)
    | ended h ht he hd hs hc =>
      rw [Poller.turn_of_disposed hd]
      split
      · exact .ended h ht he hd hs hc
      · exact .ended h ht he hd hs hc
  | answered =>
    cases h with
    | going he h =>
      refine .going ?_ h.respond
      simp only [step, Scan.respond]
      split <;> exact he
    | ended h ht he hd hs hc =>
      simp only [step, Scan.respond]
      split
      · rw [Poller.answer_eq]
        exact .ended h ht he hd hs hc
      · exact .ended h ht he hd hs hc

/-- Where a scan stands after any run. -/
theorem stage_after {r : Run} (h : Stage c request replies budget r.scan) (es : List Event) :
    Stage c request replies budget (r.after c replies es).scan := by
  refine List.foldlRecOn es (step c replies)
    (motive := fun r => Stage c request replies budget r.scan) h ?_
  intro r hr e _
  exact stage_step r e hr

end Run

/-- A scan that has been started. -/
theorem stage_of_start {settings : PollSettings} {s : Scan}
    (h : start settings request = .ok s) :
    Stage c request replies settings.maxConsecutiveFailures s := by
  unfold start at h
  cases hp : (Poller.ofSettings settings : Except Failure (Poller ScanRequest)) with
  | error f => rw [hp] at h; cases h
  | ok p =>
    rw [hp] at h
    cases h
    have hu : Poller.Run.Undisturbed [Poller.Event.submit request] := by
      simp [Poller.Run.Undisturbed, Poller.Event.isTeardown]
    have hf := Poller.Run.faithful_after (server c request replies) hp hu
    unfold Poller.ofSettings at hp
    split at hp
    · cases hp
      exact .going rfl ⟨hf, rfl, .inl ⟨rfl, rfl⟩⟩
    · cases hp

end BackendMonitor.Scan
