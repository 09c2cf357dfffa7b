import BackendMonitor.Proofs.Poller.Rehearsal

/-!
# Jobs that are reported to be cancelled

A poller only takes its job to be cancelled if the reply to a poll says so
(`Rehearsal.reports_of_cancelled`):

* `Heard`: the poller knows of it, or has an answer that says so; only an answer brings news of that;
* `Finished`: it follows the job no longer then, so that it has taken the results of all its polls;
* `Rehearsal.Honest`: such an answer comes from the replies of the script, which are taken in order.
-/

namespace BackendMonitor

namespace Poller

variable {ρ : Type}

/-- Whether an answer says that the job was cancelled. -/
def Answer.saysCancelled : Answer → Bool
  | .status (.ok snapshot) => snapshot.status == .cancelled
  | _ => false

/-- Whether the poller knows that the job was cancelled, or has an answer that says so. -/
def Heard (p : Poller ρ) : Prop :=
  p.phase = .cancelled ∨ ∃ t epoch snapshot, p.task = .tracking t ∧
    t.poll = some ⟨epoch, some (.ok snapshot)⟩ ∧ snapshot.status = .cancelled

end Poller

theorem Job.terminal_of_apply {job : Job} {snapshot : JobSnapshot} {status : JobStatus}
    (h : (job.apply snapshot).2 = .terminal status) : status = snapshot.status := by
  unfold apply at h
  split at h
  · cases h
  · simp only at h
    split at h
    · cases h
    · cases hs : snapshot.status <;> rw [hs] at h <;> cases h <;> rfl

/-- The phase that a snapshot leads to. -/
theorem PollerState.phase_apply (snapshot : JobSnapshot) (s : PollerState) :
    match s.apply snapshot with
    | .none => True
    | .unseen next | .seen next => next.phase = s.phase
    | .final next => next.phase = .ofStatus snapshot.status := by
  unfold apply
  cases s.job with
  | none => trivial
  | some job =>
    simp only
    rcases ha : job.apply snapshot with ⟨after, _ | _ | status⟩
    · trivial
    · by_cases hs : after.same job = true <;> simp [hs]
    · simp only
      rw [Job.terminal_of_apply (congrArg (·.2) ha)]

namespace Poller

/-- A poll that fails does not lead to the phase of a cancelled job. -/
theorem phase_onPollFailed {t : Tracking} {f : Failure} {p : Poller ρ}
    (h : (p.onPollFailed t f).phase = .cancelled) : p.phase = .cancelled := by
  have failed : ∀ reason, (p.publish (p.state.value.fail reason)).phase = .cancelled →
      p.phase = .cancelled := by
    intro reason hq
    rcases phase_publish (p.state.value.fail reason) p with he | he
    · cases he.symm.trans hq
    · exact he.symm.trans hq
  unfold onPollFailed at h
  split at h
  · exact failed _ h
  · simp only at h
    split at h
    · exact failed _ h
    · exact h

/-- A snapshot leads to the phase of a cancelled job by saying so, and then ends the task. -/
theorem phase_onSnapshot {t : Tracking} {snapshot : JobSnapshot} {p : Poller ρ}
    (h : (p.onSnapshot t snapshot).phase = .cancelled) :
    p.phase = .cancelled ∨
      snapshot.status = .cancelled ∧ (p.onSnapshot t snapshot).task = .ended := by
  have hs := p.state.value.phase_apply snapshot
  generalize hq : p.onSnapshot t snapshot = q at h ⊢
  unfold onSnapshot at hq
  simp only at hq
  split at hq
  · exact .inl (by rwa [← hq] at h)
  · split at hq <;> subst hq
    · exact .inl h
    · next s hx =>
      have hx : p.state.value.apply snapshot = .unseen s := hx
      rw [hx] at hs
      exact .inl (hs.symm.trans h)
    · next s hx =>
      have hx : p.state.value.apply snapshot = .seen s := hx
      rw [hx] at hs
      rcases phase_publish s (p.track { t with failures := 0 }) with he | he
      · exact .inl (hs.symm.trans (he.symm.trans h))
      · exact .inl (he.symm.trans h)
    · next s hx =>
      have hx : p.state.value.apply snapshot = .final s := hx
      rw [hx] at hs
      rcases phase_publish s (p.track { t with failures := 0 }) with he | he
      · have hc : PollerPhase.ofStatus snapshot.status = .cancelled :=
          hs.symm.trans (he.symm.trans h)
        refine .inr ⟨?_, rfl⟩
        cases hk : snapshot.status <;> rw [hk] at hc <;> first | rfl | cases hc
      · exact .inl (he.symm.trans h)

/-- Only a poll that reports that the job was cancelled leads to that phase, and it ends the
task. -/
theorem phase_onPolled {t : Tracking} {epoch : Nat} {result : Result} {p : Poller ρ}
    (h : (p.onPolled t epoch result).phase = .cancelled) :
    p.phase = .cancelled ∨ (∃ snapshot, result = .ok snapshot ∧ snapshot.status = .cancelled) ∧
      (p.onPolled t epoch result).task = .ended := by
  unfold onPolled at h ⊢
  cases ha : t.epochs.accept? epoch with
  | none =>
    simp only [ha] at h
    exact .inl h
  | some epochs =>
    simp only [ha] at h ⊢
    cases result with
    | error f => exact .inl (phase_onPollFailed h)
    | ok snapshot =>
      exact (phase_onSnapshot h).imp_right fun hs => ⟨⟨snapshot, rfl, hs.1⟩, hs.2⟩

/-- Who changes neither the phase nor the answer to the poll brings no news of that. -/
theorem Heard.of {p p' : Poller ρ} (h : Heard p')
    (hphase : p'.phase = .cancelled → p.phase = .cancelled)
    (htask : ∀ t', p'.task = .tracking t' →
      (∀ f ∈ t'.poll, f.result = none) ∨ ∃ t, p.task = .tracking t ∧ t.poll = t'.poll) :
    Heard p := by
  rcases h with h | ⟨t', epoch, snapshot, ht', hq, hs⟩
  · exact .inl (hphase h)
  · rcases htask t' ht' with hn | ⟨t, ht, he⟩
    · cases hn _ hq
    · exact .inr ⟨t, epoch, snapshot, ht, he.trans hq, hs⟩

theorem Turn.heard {now : Nat} {p p' : Poller ρ} (h : Turn now p p') (hp : Heard p') : Heard p := by
  cases h with
  | stop | submit => exact hp.of id fun t ht => by cases ht
  | refused => exact hp.of (fun h => by cases h) fun t ht => by cases ht
  | accepted =>
    refine hp.of (fun h => by cases h) fun t ht => .inl fun f hf => ?_
    cases ht
    cases hf
  | ignore => exact hp
  | askCancel hd ht | resume hd ht =>
    refine hp.of (fun h => by cases h) fun t ht' => .inr ?_
    cases ht'
    exact ⟨_, ht, rfl⟩
  | cancelled hd ht =>
    refine hp.of id fun t ht' => .inr ?_
    cases ht'
    exact ⟨_, ht, rfl⟩
  | poll =>
    refine hp.of id fun t ht => .inl fun f hf => ?_
    cases ht
    cases hf
    rfl
  | @polled t epoch result hd ht hc hr =>
    rcases hp with hp | ⟨t', epoch', snapshot, ht', hq, -⟩
    · rcases phase_onPolled hp with hp | ⟨⟨snapshot, rfl, hs⟩, -⟩
      · exact .inl hp
      · exact .inr ⟨t, epoch, snapshot, ht, hr, hs⟩
    · obtain ⟨-, he | ⟨t'', he, -, -, hn⟩⟩ := task_onPolled t epoch result p
      · cases he.symm.trans ht'
      · cases he.symm.trans ht'
        cases hn.symm.trans hq

theorem heard_answer {a : Answer} {p : Poller ρ} (h : Heard (p.answer a)) :
    Heard p ∨ a.saysCancelled = true := by
  have hphase : (p.answer a).phase = p.phase := by
    unfold answer
    split <;> rfl
  rcases h with h | ⟨t, epoch, snapshot, ht, hq, hs⟩
  · exact .inl (.inl (hphase.symm.trans h))
  · unfold answer at ht
    split at ht
    · cases ht
    · next r t' ht' =>
      cases ht
      obtain ⟨f, hf, he⟩ := Option.map_eq_some_iff.1 hq
      cases he
      exact .inr (by simp [Answer.saysCancelled, hs])
    · next r t' ht' =>
      cases ht
      exact .inl (.inr ⟨t', epoch, snapshot, ht', hq, hs⟩)
    · exact .inl (.inr ⟨t, epoch, snapshot, ht, hq, hs⟩)

/-- A poller whose job was cancelled follows it no longer. -/
def Finished (p : Poller ρ) : Prop :=
  p.phase = .cancelled → ∀ t, p.task ≠ .tracking t

theorem Turn.finished {now : Nat} {p p' : Poller ρ} (h : Turn now p p') (hf : Finished p) :
    Finished p' := by
  intro hp t ht'
  cases h with
  | stop | submit | refused => cases ht'
  | accepted | askCancel | resume => cases hp
  | ignore => exact hf hp _ ht'
  | cancelled hd ht | poll hd ht => exact hf hp _ ht
  | polled hd ht hc hr =>
    rcases phase_onPolled hp with hp | ⟨-, he⟩
    · exact hf hp _ ht
    · cases he.symm.trans ht'

theorem finished_answer {p : Poller ρ} (hf : Finished p) (a : Answer) : Finished (p.answer a) := by
  unfold answer
  split
  · exact fun _ t ht => by cases ht
  · next ht => exact fun hp _ _ => hf hp _ ht
  · next ht => exact fun hp _ _ => hf hp _ ht
  · exact hf

theorem Finished.taken {p : Poller ρ} (h : Finished p) (hp : p.phase = .cancelled) :
    p.taken = p.polls := by
  have hn : p.isPolling = false := by
    unfold isPolling
    split
    · next ht => exact absurd ht (h hp _)
    · rfl
  rw [Poller.taken, if_neg (by simp [hn])]

theorem Turn.calls {now : Nat} {p p' : Poller ρ} (h : Turn now p p') :
    p'.calls = p.calls ∨ ∃ c, p'.calls = (now, c) :: p.calls := by
  cases h with
  | polled => exact .inl (calls_onPolled _ _ _ _)
  | submit | askCancel | poll => exact .inr ⟨_, rfl⟩
  | _ => exact .inl rfl

namespace Rehearsal

/-- One of the first `n` replies to polls reports that the job was cancelled. -/
def Reports (statuses : List (Reply JobSnapshot)) (n : Nat) : Prop :=
  ∃ reply ∈ statuses.take n, ∃ snapshot,
    reply.result = some (.ok snapshot) ∧ snapshot.status = .cancelled

/-- What the poller knows of a job that was cancelled comes from the replies to its polls, which are
taken in order. -/
structure Honest (statuses : List (Reply JobSnapshot)) (r : Rehearsal ρ) : Prop where
  script : r.script.statuses = statuses.drop r.poller.polls
  arriving : ∀ a ∈ r.arriving, a.2.saysCancelled = true → Reports statuses r.poller.polls
  heard : Heard r.poller → Reports statuses r.poller.polls

variable {statuses : List (Reply JobSnapshot)} {r : Rehearsal ρ} {now : Nat}

theorem Reports.mono {n m : Nat} (h : Reports statuses n) (hn : n ≤ m) : Reports statuses m := by
  obtain ⟨reply, hr, hs⟩ := h
  exact ⟨reply, (List.take_sublist_take_left hn).subset hr, hs⟩

theorem calls_answer (a : Answer) (p : Poller ρ) : (p.answer a).calls = p.calls := by
  unfold answer
  split <;> rfl

theorem polls_congr {p q : Poller ρ} (h : p.calls = q.calls) : p.polls = q.polls := by
  rw [polls, h, polls]

theorem Honest.deliver (h : Honest statuses r) (now : Nat) : Honest statuses (r.deliver now) := by
  have hp : (r.deliver now).poller.calls = r.poller.calls ∧
      (Heard (r.deliver now).poller → Reports statuses r.poller.polls) := by
    refine List.foldlRecOn _ _
      (motive := fun p : Poller ρ => p.calls = r.poller.calls ∧
        (Heard p → Reports statuses r.poller.polls)) ⟨rfl, h.heard⟩ ?_
    rintro p ⟨hc, hp⟩ a ha
    refine ⟨(calls_answer a.2 p).trans hc, fun hh => ?_⟩
    rcases heard_answer hh with hh | hs
    · exact hp hh
    · exact h.arriving a (List.mem_filter.1 ha).1 hs
  have hn := polls_congr hp.1
  refine ⟨h.script.trans (by rw [hn]), fun a ha hs => ?_, fun hh => ?_⟩
  · rw [hn]
    exact h.arriving a (List.mem_filter.1 ha).1 hs
  · rw [hn]
    exact hp.2 hh

/-- The reply to a poll is the next one of the script. -/
theorem reports_of_arrival {jobId : String} {n : Nat} {a : Nat × Answer}
    (ha : a ∈ arrival now .status ((statuses.drop n).headD (stillRunning jobId)))
    (hs : a.2.saysCancelled = true) : Reports statuses (n + 1) := by
  have hnext : (statuses.drop n).head? = statuses[n]? := List.head?_drop
  rw [List.headD_eq_head?_getD, hnext] at ha
  cases hr : statuses[n]? with
  | none =>
    rw [hr] at ha
    rw [List.mem_singleton.1 ha] at hs
    cases hs
  | some reply =>
    rw [hr, Option.getD_some] at ha
    refine ⟨reply, ?_, ?_⟩
    · rw [List.take_add_one, hr]
      exact List.mem_append_right _ (List.mem_singleton.2 rfl)
    · unfold arrival at ha
      split at ha
      · next result hresult =>
        rw [List.mem_singleton.1 ha] at hs
        cases result with
        | ok snapshot => exact ⟨snapshot, hresult, by simpa [Answer.saysCancelled] using hs⟩
        | error f => cases hs
      · cases ha

/-- Only a poll takes a reply to one. -/
theorem statuses_receive (now : Nat) (c : Call ρ) (r : Rehearsal ρ) :
    (r.receive now c).script.statuses = r.script.statuses.drop c.isPoll.toNat := by
  cases c with
  | status jobId => exact List.drop_one.symm
  | _ => rfl

/-- Only a poll is answered that the job was cancelled. -/
theorem mem_arriving_receive {c : Call ρ} {a : Nat × Answer}
    (ha : a ∈ (r.receive now c).arriving) (hs : a.2.saysCancelled = true) :
    a ∈ r.arriving ∨ c.isPoll = true ∧
      ∃ jobId, a ∈ arrival now .status (r.script.statuses.headD (stillRunning jobId)) := by
  have other : ∀ {α : Type} {answer : Except Failure α → Answer} {reply : Reply α},
      (∀ result, (answer result).saysCancelled = false) → a ∉ arrival now answer reply := by
    intro α answer reply hanswer ha
    unfold arrival at ha
    split at ha
    · rw [List.mem_singleton.1 ha, hanswer] at hs
      cases hs
    · cases ha
  cases c with
  | submit request => exact (List.mem_append.1 ha).imp_right fun ha => absurd ha (other fun _ => rfl)
  | cancel jobId => exact (List.mem_append.1 ha).imp_right fun ha => absurd ha (other fun _ => rfl)
  | status jobId => exact (List.mem_append.1 ha).imp_right fun ha => ⟨rfl, jobId, ha⟩

/-- The server receives a call of the task. -/
theorem Honest.receive {p : Poller ρ} {c : Call ρ} (h : Honest statuses r)
    (hp : p.calls = (now, c) :: r.poller.calls) (hh : Heard p → Heard r.poller) :
    Honest statuses (({ r with poller := p } : Rehearsal ρ).receive now c) := by
  have hn : p.polls = r.poller.polls + c.isPoll.toNat := by
    rw [polls, hp, List.countP_cons, polls]
    cases c <;> rfl
  have hle : r.poller.polls ≤ p.polls := hn ▸ Nat.le_add_right _ _
  refine ⟨?_, fun a ha hs => ?_, fun hq => ?_⟩ <;> rw [poller_receive] at *
  · rw [statuses_receive, hn, ← List.drop_drop]
    exact congrArg _ h.script
  · rcases mem_arriving_receive ha hs with ha | ⟨hc, jobId, ha⟩
    · exact (h.arriving a ha hs).mono hle
    · have ha : a ∈ arrival now .status (r.script.statuses.headD (stillRunning jobId)) := ha
      rw [h.script] at ha
      rw [hn, hc]
      exact reports_of_arrival ha hs
  · exact (h.heard (hh hq)).mono hle

/-- The poller did nothing that the server hears of. -/
theorem Honest.withPoller {p : Poller ρ} (h : Honest statuses r)
    (hp : p.calls = r.poller.calls) (hh : Heard p → Heard r.poller) :
    Honest statuses { r with poller := p } := by
  have hn := polls_congr hp
  exact ⟨hn ▸ h.script, fun a ha hs => hn ▸ h.arriving a ha hs, fun hq => hn ▸ h.heard (hh hq)⟩

/-- The owner brings no news of that. -/
theorem Owned.heard {p p' : Poller ρ} (h : Owned p p') (hp : Heard p') : Heard p := by
  cases h with
  | submit request =>
    unfold Poller.submit at hp
    split at hp
    · exact hp
    · refine hp.of (fun h => ?_) fun t ht => by cases ht
      rcases phase_publish { p.state.value with phase := .submitting } p with he | he
      · cases he.symm.trans h
      · exact he.symm.trans h
  | cancel =>
    unfold Poller.cancel at hp
    split at hp <;> exact hp
  | dispose | drop => exact hp

theorem Owned.calls_eq {p p' : Poller ρ} (h : Owned p p') : p'.calls = p.calls := by
  cases h with
  | submit request =>
    unfold Poller.submit
    split
    · rfl
    · exact calls_publish _ _
  | cancel =>
    unfold Poller.cancel
    split <;> rfl
  | dispose | drop => rfl

theorem kept_honest : Kept (fun r : Rehearsal ρ => Honest statuses r) where
  deliver _ now h := h.deliver now
  turn r r' now hd ht h := by
    obtain ⟨p, hp, -⟩ := Option.map_eq_some_iff.1 (turn_eq now r ▸ ht)
    rw [deliver_of_delivered hd] at hp
    have hturn := turn_eq_some hp
    rcases hturn.calls with hc | ⟨c, hc⟩
    · have hc' : p.calls = [] ++ r.poller.calls := hc
      cases (turn_of_some hd hp hc').symm.trans ht
      exact h.withPoller hc hturn.heard
    · have hc' : p.calls = [(now, c)] ++ r.poller.calls := hc
      cases (turn_of_some hd hp hc').symm.trans ht
      exact h.receive hc hturn.heard
  owner _ _ ho h := h.withPoller ho.calls_eq ho.heard
  clock _ _ _ _ h := ⟨h.script, h.arriving, h.heard⟩

theorem Owned.finished {p p' : Poller ρ} (h : Owned p p') (hf : Finished p) : Finished p' := by
  cases h with
  | submit request =>
    unfold Poller.submit
    split
    · exact hf
    · exact fun _ t ht => by cases ht
  | cancel =>
    unfold Poller.cancel
    split <;> exact hf
  | dispose | drop => exact hf

theorem kept_finished : Kept (fun r : Rehearsal ρ => Finished r.poller) :=
  .of_poller (fun _ a hf => finished_answer hf a) (fun _ _ _ h hf => h.finished hf)
    fun _ _ h hf => h.finished hf

theorem honest_start {s : PollSettings} {p : Poller ρ} (hp : ofSettings s = .ok p)
    (script : Script) : Honest script.statuses (start p script) := by
  obtain ⟨htask, hphase, hcalls⟩ := new_of_ofSettings hp
  refine ⟨?_, fun a ha => absurd ha List.not_mem_nil, fun hh => ?_⟩
  · show script.statuses = script.statuses.drop p.polls
    rw [polls, hcalls, List.countP_nil, List.drop_zero]
  · rcases hh with hh | ⟨t, epoch, snapshot, ht, -⟩
    · cases hphase.symm.trans hh
    · cases htask.symm.trans ht

/-- The poller only takes its job to be cancelled if a reply whose result it took says so. -/
theorem reports_of_cancelled {s : PollSettings} {p : Poller ρ} (hp : ofSettings s = .ok p)
    (script : Script) (steps : List (Step ρ))
    (h : ((start p script).after steps).poller.phase = .cancelled) :
    Reports script.statuses ((start p script).after steps).poller.taken := by
  have hstart : Finished (start p script).poller := fun _ t ht => by
    cases (new_of_ofSettings hp).1.symm.trans ht
  rw [(kept_finished.after hstart steps).taken h]
  exact (kept_honest.after (honest_start hp script) steps).heard (.inl h)

end Rehearsal

end Poller

end BackendMonitor
