import BackendMonitor.Proofs.Poller.Outcome

/-!
# Requests to cancel

The owner asks the task to cancel, the task asks the server, and the server replies, each when it
likes. The task looks at the phase again before it asks the server, so that what the owner asked too
early, too late or too often comes to nothing.

* `Canceling`: all that one thing that happens has to do with canceling (`Run.canceling_step`);
* `Asking`: what a poller that asks its server to cancel is like, which every step keeps;
* `Run.cancelCalls_add_outstanding_le`: how many calls there are for the replies;
* `Run.cancelCalls_add_pending_le`: how many calls the requests of the owner still lead to;
* `Run.CancelsOnce`: how the requests go out, and `Run.cancel_requests_go_out_once`: so they do in
  every run.
-/

namespace BackendMonitor.Poller

variable {ρ : Type}

/-- Whether the owner asks to cancel. -/
def Event.isCancel : Event ρ → Bool
  | .cancel => true
  | _ => false

/-- Whether the server replies to a request to cancel. -/
def Event.isCancelReply : Event ρ → Bool
  | .cancelAnswered => true
  | _ => false

/-- The request to cancel that the task has under way. -/
def cancelInFlight? (p : Poller ρ) : Option CancelInFlight :=
  match p.task with
  | .tracking t => t.cancel
  | _ => none

/-- Whether the task waits for the reply to a request to cancel. -/
def awaitsReply (p : Poller ρ) : Bool :=
  p.cancelInFlight?.any (·.result.isNone)

/-- The calls that ask the server to cancel, newest first. -/
def cancelLog (p : Poller ρ) : List (Nat × Call ρ) :=
  p.calls.filter (·.2.isCancel)

/-- A bound on the calls to cancel that have no reply. A task that ended may have left one. -/
def outstanding (p : Poller ρ) : Nat :=
  match p.task with
  | .tracking t => if t.cancel.any (·.result.isNone) then 1 else 0
  | .ended => 1
  | _ => 0

/-- How many calls to cancel the requests lead to that the owner has made and the task has not
taken. -/
def pending (p : Poller ρ) : Nat :=
  if 0 < p.cancels ∧ p.phase = .polling then 1 else 0

/-- What a reply to a request to cancel does to the state. -/
def replied (reply : Except Failure Unit) (w : Watched PollerState) : Watched PollerState :=
  match reply with
  | .ok () => w
  | .error _ => w.publish { w.value with phase := .polling }

theorem cancelInFlight?_of_tracking {p : Poller ρ} {t : Tracking} (ht : p.task = .tracking t) :
    p.cancelInFlight? = t.cancel := by
  unfold cancelInFlight?
  rw [ht]

theorem cancelCalls_eq (p : Poller ρ) : p.cancelCalls = p.cancelLog.length :=
  List.countP_eq_length_filter

theorem outstanding_le_one (p : Poller ρ) : p.outstanding ≤ 1 := by
  unfold outstanding
  split
  · split <;> omega
  · exact Nat.le_refl 1
  · exact Nat.zero_le 1

theorem pending_le_one (p : Poller ρ) : p.pending ≤ 1 := by
  unfold pending
  split <;> omega

/-! ## What can happen -/

/-- What a poller that asks its server to cancel is like. -/
structure Asking (server : Server) (p : Poller ρ) : Prop where
  early : p.phase = .idle ∨ p.phase = .submitting → p.cancels = 0
  phase : p.cancelInFlight?.isSome = true → p.phase = .cancelling
  reply : ∀ c ∈ p.cancelInFlight?, ∀ x ∈ c.result, x = server.cancel p.cancelCalls

/-- What one thing that happens has to do with canceling. -/
inductive Canceling (server : Server) (now : Nat) (p : Poller ρ) : Event ρ → Poller ρ → Prop where
  /-- The owner asks the task. -/
  | wished (hd : p.disposed = false) (hp : p.phase = .polling) :
      Canceling server now p .cancel { p with cancels := p.cancels + 1 }
  /-- The task asks the server. -/
  | asked {p' : Poller ρ} {job : Job} (hp : p.phase = .polling) (hj : p.state.value.job = some job)
      (hs : server.submission = .ok job.id) (hc : 0 < p.cancels) (ho : p.outstanding = 0)
      (hv : p'.state = p.state.publish { p.state.value with phase := .cancelling })
      (hf : p'.cancelInFlight? = some {}) (ho' : p'.outstanding = 1)
      (hl : p'.calls = (now, .cancel job.id) :: p.calls) : Canceling server now p .turn p'
  /-- The server replies. -/
  | answered {p' : Poller ρ} {c : CancelInFlight} (hf : p.cancelInFlight? = some c)
      (hf' : p'.cancelInFlight? = some ⟨some (server.cancel p.cancelCalls)⟩)
      (ho : p.outstanding = if c.result.isNone then 1 else 0) (ho' : p'.outstanding = 0)
      (hv : p'.state = p.state) (hc : p'.cancels = p.cancels) (hl : p'.cancelLog = p.cancelLog) :
      Canceling server now p .cancelAnswered p'
  /-- The task takes the reply. -/
  | taken {p' : Poller ρ} {reply : Except Failure Unit} (hc : p.cancels = 0)
      (hf : p.cancelInFlight? = some ⟨some reply⟩) (hf' : p'.cancelInFlight? = none)
      (ho : p.outstanding = 0) (hv : p'.state = replied reply p.state) (hc' : p'.cancels = 0)
      (hl : p'.cancelLog = p.cancelLog) : Canceling server now p .turn p'
  /-- The task ends. -/
  | ended {p' : Poller ρ} (ht : p'.task = .ended)
      (hp : p'.phase = p.phase ∨ p'.phase.isTerminal = true) (hc : p'.cancels = p.cancels)
      (hl : p'.cancelLog = p.cancelLog) : Canceling server now p .turn p'
  /-- The job is on its way to the server, or accepted. -/
  | began {e : Event ρ} {p' : Poller ρ}
      (hp : p.phase = .idle ∧ p'.phase = .submitting ∨ p.phase = .submitting ∧ p'.phase = .polling)
      (hf : p'.cancelInFlight? = none) (ho : p.outstanding = 0) (hc : p'.cancels = p.cancels)
      (hl : p'.cancelLog = p.cancelLog) : Canceling server now p e p'
  /-- Nothing. -/
  | apart {e : Event ρ} {p' : Poller ρ} (hf : p'.cancelInFlight? = p.cancelInFlight?)
      (ho : p'.outstanding = p.outstanding) (hp : p'.phase = p.phase) (hc : p'.cancels ≤ p.cancels)
      (hl : p'.cancelLog = p.cancelLog) : Canceling server now p e p'

theorem Canceling.refl (server : Server) (now : Nat) (e : Event ρ) (p : Poller ρ) :
    Canceling server now p e p :=
  .apart rfl rfl rfl (Nat.le_refl _) rfl

/-- What the answer to a poll does has nothing to do with canceling, but that it may end the
task. -/
theorem Polled.canceling {server : Server} {now : Nat} {t₀ t : Tracking} {job : Job}
    {result : Result} {p p' : Poller ρ} (h : Polled t job p result p') (ht : p.task = .tracking t₀)
    (hc : t.cancel = t₀.cancel) : Canceling server now p .turn p' := by
  have hl : p'.cancelLog = p.cancelLog := by rw [cancelLog, h.frame.1, cancelLog]
  have going : ∀ {w : Watched PollerState} {n : UInt32}, w.value.phase = p.phase →
      Canceling server now p .turn
        { p with state := w, task := .tracking { t with failures := n } } := by
    intro w n hp
    refine .apart ?_ ?_ hp (Nat.le_refl _) rfl
    · rw [cancelInFlight?_of_tracking ht, ← hc]
      rfl
    · simp [outstanding, ht, hc]
  cases h with
  | @news snapshot hs w hw =>
    refine going ?_
    rcases hw with rfl | rfl <;> rfl
  | failed => exact going rfl
  | @concluded snapshot hs =>
    refine .ended rfl (.inr ?_) rfl hl
    show (PollerPhase.ofStatus snapshot.status).isTerminal = true
    cases snapshot.status <;> rfl
  | refused | lost => exact .ended rfl (.inr rfl) rfl hl

/-- What a turn has to do with canceling. -/
theorem Turn.canceling {server : Server} {now : Nat} {p p' : Poller ρ} (h : Turn now p p')
    (ha : Aligned server p) (hq : Asking server p) : Canceling server now p .turn p' := by
  cases h with
  | stop => exact .ended rfl (.inl rfl) rfl rfl
  | submit hd ht =>
    refine .apart ?_ ?_ rfl (Nat.le_refl _) ?_
    · simp [cancelInFlight?, ht]
    · simp [outstanding, ht]
    · simp [cancelLog, Call.isCancel]
  | refused => exact .ended rfl (.inr rfl) rfl rfl
  | accepted hd ht =>
    obtain ⟨hv, -, -⟩ := ha.submitting ht
    have hp : p.phase = .submitting := congrArg (·.phase) hv
    exact .began (.inr ⟨hp, rfl⟩) rfl (by simp [outstanding, ht]) rfl rfl
  | ignore => exact .apart rfl rfl rfl (Nat.sub_le _ _) rfl
  | @askCancel t hd ht hc ho hp =>
    obtain ⟨hl, hs, -⟩ := ha.tracking ht
    obtain ⟨job, hj, hi, -⟩ := hl.job
    refine .asked hp hj (hi ▸ hs) hc ?_ rfl rfl rfl (by rw [hi])
    simp [outstanding, ht, ho]
  | @cancelled t reply hd ht hc hr hp =>
    have hf : p.cancelInFlight? = some ⟨some reply⟩ := (cancelInFlight?_of_tracking ht).trans hr
    -- The phase is still that of the request, so the reply is that it was accepted.
    have hx : reply = .ok () := hp.resolve_right fun hn => hn (hq.phase (by rw [hf]; rfl))
    refine .taken hc hf rfl ?_ (by rw [hx]; rfl) hc rfl
    simp [outstanding, ht, hr]
  | @resume t f hd ht hc hr hp =>
    refine .taken hc ((cancelInFlight?_of_tracking ht).trans hr) rfl ?_ rfl hc rfl
    simp [outstanding, ht, hr]
  | polled hd ht hc hr =>
    obtain ⟨job, -, hp⟩ := ha.polled hd ht hr
    exact hp.canceling ht rfl
  | @poll t hd ht hc hp hn =>
    refine .apart ?_ ?_ rfl (Nat.le_refl _) ?_
    · exact (cancelInFlight?_of_tracking ht).symm
    · simp [outstanding, ht]
    · simp [cancelLog, Call.isCancel]

/-- Other replies of the server have nothing to do with canceling. -/
theorem canceling_answer {server : Server} {now : Nat} {e : Event ρ} {a : Answer} {p : Poller ρ}
    (h : ∀ x, a ≠ .cancelled x) : Canceling server now p e (p.answer a) := by
  unfold answer
  split
  · next ht =>
    refine .apart ?_ ?_ rfl (Nat.le_refl _) rfl
    · simp [cancelInFlight?, ht]
    · simp [outstanding, ht]
  · next ht =>
    refine .apart ?_ ?_ rfl (Nat.le_refl _) rfl
    · simp [cancelInFlight?, ht]
    · simp [outstanding, ht]
  · next x _ _ => exact absurd rfl (h x)
  · exact .refl _ _ _ _

/-- A reply to a request to cancel is noted, if there is one under way. -/
theorem canceling_cancelled (server : Server) (now : Nat) (p : Poller ρ) :
    Canceling server now p .cancelAnswered
      (p.answer (.cancelled (server.cancel p.cancelCalls))) := by
  generalize ha : Answer.cancelled (server.cancel p.cancelCalls) = a
  unfold answer
  split
  · cases ha
  · cases ha
  · next x t ht =>
    injection ha with ha
    cases hc : t.cancel with
    | none =>
      refine .apart ?_ ?_ rfl (Nat.le_refl _) rfl
      · simp [cancelInFlight?, ht, hc]
      · simp [outstanding, ht, hc]
    | some c =>
      refine .answered ((cancelInFlight?_of_tracking ht).trans hc) (by rw [ha]; rfl) ?_ rfl rfl rfl
        rfl
      simp [outstanding, ht, hc]
  · exact .refl _ _ _ _

namespace Run

/-- What a step has to do with canceling. -/
theorem canceling_step {server : Server} {r : Run ρ} (e : Event ρ) (ha : Aligned server r.poller)
    (hq : Asking server r.poller) :
    Canceling server r.now r.poller e (r.step server e).poller := by
  cases e with
  | submit request =>
    show Canceling server r.now r.poller _ (r.poller.submit request).1
    rcases submit_cases request r.poller with h | ⟨hd, hp, h⟩
    · rw [h]
      exact .refl _ _ _ _
    · rw [h]
      have ht : r.poller.task = .unstarted :=
        Classical.byContradiction fun ht => ha.phase_ne_idle ht hp
      exact .began (.inl ⟨hp, rfl⟩) rfl (by simp [outstanding, ht]) rfl rfl
  | cancel =>
    show Canceling server r.now r.poller _ r.poller.cancel
    rcases cancel_cases r.poller with h | ⟨hd, hp, h⟩
    · rw [h]
      exact .refl _ _ _ _
    · rw [h]
      exact .wished hd hp
  | dispose | drop | pass => exact .apart rfl rfl rfl (Nat.le_refl _) rfl
  | submissionAnswered => exact canceling_answer fun x hx => by cases hx
  | pollAnswered => exact canceling_answer fun x hx => by cases hx
  | cancelAnswered => exact canceling_cancelled server r.now r.poller
  | turn =>
    simp only [step]
    cases ht : r.poller.turn r.now with
    | none => exact .refl _ _ _ _
    | some p => exact (turn_eq_some ht).canceling ha hq

end Run

/-! ## What every step keeps -/

theorem cancelCalls_congr {p p' : Poller ρ} (h : p'.cancelLog = p.cancelLog) :
    p'.cancelCalls = p.cancelCalls := by
  rw [cancelCalls_eq, h, cancelCalls_eq]

theorem cancelCalls_of_call {now : Nat} {jobId : String} {p p' : Poller ρ}
    (h : p'.calls = (now, .cancel jobId) :: p.calls) : p'.cancelCalls = p.cancelCalls + 1 := by
  simp [cancelCalls, h, Call.isCancel]

/-- A poller without a request under way only has to do with canceling once it polls. -/
theorem asking_of_none {server : Server} {p : Poller ρ} (hf : p.cancelInFlight? = none)
    (he : p.phase = .idle ∨ p.phase = .submitting → p.cancels = 0) : Asking server p := by
  refine ⟨he, fun h => ?_, fun c hc => ?_⟩
  · rw [hf] at h
    cases h
  · rw [hf] at hc
    cases hc

theorem Canceling.asking {server : Server} {now : Nat} {e : Event ρ} {p p' : Poller ρ}
    (h : Canceling server now p e p') (hq : Asking server p) : Asking server p' := by
  cases h with
  | wished hd hp =>
    refine ⟨fun h => ?_, hq.phase, hq.reply⟩
    have h : p.phase = .idle ∨ p.phase = .submitting := h
    rw [hp] at h
    rcases h with h | h <;> cases h
  | asked hp hj hs hc ho hv hf ho' hl =>
    have hp' : p'.phase = .cancelling := congrArg (·.value.phase) hv
    refine ⟨fun h => ?_, fun _ => hp', fun c hc x hx => ?_⟩
    · rw [hp'] at h
      rcases h with h | h <;> cases h
    · rw [hf] at hc
      cases hc
      cases hx
  | @answered _ c hf hf' ho ho' hv hc hl =>
    have hp : p'.phase = p.phase := congrArg (·.value.phase) hv
    refine ⟨fun h => ?_, fun _ => ?_, fun d hd x hx => ?_⟩
    · rw [hc]
      exact hq.early (hp ▸ h)
    · rw [hp]
      exact hq.phase (by rw [hf]; rfl)
    · rw [hf'] at hd
      cases hd
      cases hx
      rw [cancelCalls_congr hl]
  | taken hc hf hf' ho hv hc' hl => exact asking_of_none hf' fun _ => hc'
  | ended ht hp hc hl =>
    refine asking_of_none (by rw [cancelInFlight?, ht]) fun h => ?_
    rcases hp with hp | hp
    · rw [hc]
      exact hq.early (hp ▸ h)
    · rcases h with h | h <;> rw [h] at hp <;> cases hp
  | began hp hf ho hc hl =>
    refine asking_of_none hf fun _ => ?_
    rw [hc]
    exact hq.early (hp.imp (·.1) (·.1))
  | apart hf ho hp hc hl =>
    refine ⟨fun h => ?_, fun h => ?_, ?_⟩
    · have h0 := hq.early (hp ▸ h)
      omega
    · rw [hp]
      exact hq.phase (hf ▸ h)
    · rw [hf, cancelCalls_congr hl]
      exact hq.reply

/-- The task asks the server in a step from polling to cancelling, which is when it makes its call,
and in no other step. -/
theorem Canceling.calls {server : Server} {now : Nat} {e : Event ρ} {p p' : Poller ρ}
    (h : Canceling server now p e p') (hq : Asking server p) :
    (∃ job ∈ p.state.value.job, server.submission = .ok job.id ∧ p.phase = .polling ∧
        p'.phase = .cancelling ∧ p'.calls = (now, .cancel job.id) :: p.calls) ∨
      ¬ (p.phase = .polling ∧ p'.phase = .cancelling) ∧ p'.cancelLog = p.cancelLog := by
  cases h with
  | wished => exact .inr ⟨fun ⟨hp, hp'⟩ => (by cases hp.symm.trans hp'), rfl⟩
  | @asked _ job hp hj hs hc ho hv hf ho' hl =>
    exact .inl ⟨job, hj, hs, hp, congrArg (·.value.phase) hv, hl⟩
  | answered hf hf' ho ho' hv hc hl =>
    refine .inr ⟨fun ⟨hp, hp'⟩ => ?_, hl⟩
    have hv : p'.phase = p.phase := congrArg (·.value.phase) hv
    cases hp.symm.trans (hv.symm.trans hp')
  | taken hc hf hf' ho hv hc' hl =>
    refine .inr ⟨fun ⟨hp, _⟩ => ?_, hl⟩
    cases hp.symm.trans (hq.phase (by rw [hf]; rfl))
  | ended ht hp hc hl =>
    refine .inr ⟨fun ⟨h, h'⟩ => ?_, hl⟩
    rcases hp with hp | hp
    · cases h.symm.trans (hp.symm.trans h')
    · rw [h'] at hp
      cases hp
  | began hp hf ho hc hl =>
    refine .inr ⟨fun ⟨h, _⟩ => ?_, hl⟩
    rcases hp with ⟨hp, -⟩ | ⟨hp, -⟩ <;> cases hp.symm.trans h
  | apart hf ho hp hc hl =>
    exact .inr ⟨fun ⟨h, h'⟩ => (by cases h.symm.trans (hp.symm.trans h')), hl⟩

/-- A request leaves the task as it ends, or as the reply is taken. -/
theorem Canceling.state {server : Server} {now : Nat} {e : Event ρ} {p p' : Poller ρ}
    {c : CancelInFlight} (h : Canceling server now p e p') (hq : Asking server p)
    (hc : p.cancelInFlight? = some c) (hc' : p'.cancelInFlight? = none) :
    p'.task = .ended ∨
      c.result = some (server.cancel p.cancelCalls) ∧
        p'.state = replied (server.cancel p.cancelCalls) p.state := by
  cases h with
  | wished => cases hc.symm.trans hc'
  | asked hp hj hs hn ho hv hf ho' hl => cases hf.symm.trans hc'
  | answered hf hf' ho ho' hv hn hl => cases hf'.symm.trans hc'
  | @taken _ reply hn hf hf' ho hv hn' hl =>
    obtain rfl : c = ⟨some reply⟩ := Option.some.inj (hc.symm.trans hf)
    have hx : reply = server.cancel p.cancelCalls := hq.reply _ hf reply rfl
    exact .inr ⟨congrArg some hx, hx ▸ hv⟩
  | ended ht => exact .inl ht
  | began hp hf ho hn hl =>
    have hp' := hq.phase (by rw [hc]; rfl)
    rcases hp with ⟨hp, -⟩ | ⟨hp, -⟩ <;> cases hp.symm.trans hp'
  | apart hf => cases hc.symm.trans (hf.symm.trans hc')

/-! ## Counting -/

/-- A call is made when none is left without a reply. -/
theorem Canceling.cancelCalls_add_outstanding_le {server : Server} {now : Nat} {e : Event ρ}
    {p p' : Poller ρ} (h : Canceling server now p e p') :
    p'.cancelCalls + p.outstanding ≤
      p.cancelCalls + p'.outstanding + (e.isCancelReply && p.awaitsReply).toNat := by
  cases h with
  | wished => exact Nat.le_add_right _ _
  | asked hp hj hs hc ho hv hf ho' hl =>
    have hn := cancelCalls_of_call hl
    omega
  | @answered _ c hf hf' ho ho' hv hc hl =>
    have hn := cancelCalls_congr hl
    have hr : (Event.isCancelReply (.cancelAnswered : Event ρ) && p.awaitsReply).toNat =
        if c.result.isNone then 1 else 0 := by
      rw [awaitsReply, hf]
      show c.result.isNone.toNat = _
      cases c.result.isNone <;> rfl
    omega
  | taken hc hf hf' ho hv hc' hl =>
    have hn := cancelCalls_congr hl
    omega
  | ended ht hp hc hl =>
    have hn := cancelCalls_congr hl
    have ho := p.outstanding_le_one
    have ho' : p'.outstanding = 1 := by simp [outstanding, ht]
    omega
  | began hp hf ho hc hl =>
    have hn := cancelCalls_congr hl
    omega
  | apart hf ho hp hc hl =>
    have hn := cancelCalls_congr hl
    omega

/-- Only a request of the owner leads to a call, and however many there are lead to one. -/
theorem Canceling.cancelCalls_add_pending_le {server : Server} {now : Nat} {e : Event ρ}
    {p p' : Poller ρ} (h : Canceling server now p e p') (hq : Asking server p) :
    p'.cancelCalls + p'.pending ≤ p.cancelCalls + p.pending + e.isCancel.toNat := by
  have off : p'.phase ≠ .polling → p'.pending = 0 := fun hp => if_neg fun h => hp h.2
  have none : p'.cancels = 0 → p'.pending = 0 := fun hc => if_neg fun h => by omega
  have mono : p'.phase = p.phase → p'.cancels ≤ p.cancels → p'.pending ≤ p.pending := by
    intro hp hc
    unfold pending
    rw [hp]
    split
    · next h => rw [if_pos ⟨by omega, h.2⟩]
    · exact Nat.zero_le _
  cases h with
  | wished hd hp =>
    have hn := p.pending_le_one
    have hn' := pending_le_one { p with cancels := p.cancels + 1 }
    show p.cancelCalls + _ ≤ p.cancelCalls + p.pending + 1
    omega
  | asked hp hj hs hc ho hv hf ho' hl =>
    have hn := cancelCalls_of_call hl
    have hp' : p'.phase = .cancelling := congrArg (·.value.phase) hv
    have h0 := off (by rw [hp']; decide)
    have h1 : p.pending = 1 := if_pos ⟨hc, hp⟩
    omega
  | answered hf hf' ho ho' hv hc hl =>
    have hn := cancelCalls_congr hl
    have hm := mono (congrArg (·.value.phase) hv) (Nat.le_of_eq hc)
    omega
  | taken hc hf hf' ho hv hc' hl =>
    have hn := cancelCalls_congr hl
    have h0 := none hc'
    omega
  | ended ht hp hc hl =>
    have hn := cancelCalls_congr hl
    have hm : p'.pending ≤ p.pending := by
      rcases hp with hp | hp
      · exact mono hp (Nat.le_of_eq hc)
      · rw [off fun h => by rw [h] at hp; cases hp]
        exact Nat.zero_le _
    omega
  | began hp hf ho hc hl =>
    have hn := cancelCalls_congr hl
    have h0 := none (hc.trans (hq.early (hp.imp (·.1) (·.1))))
    omega
  | apart hf ho hp hc hl =>
    have hn := cancelCalls_congr hl
    have hm := mono hp hc
    omega

namespace Run

/-- How many replies to requests to cancel come in a run, as the task waits for them. -/
def cancelReplies (server : Server) : Run ρ → List (Event ρ) → Nat
  | _, [] => 0
  | r, e :: es =>
    (e.isCancelReply && r.poller.awaitsReply).toNat + cancelReplies server (r.step server e) es

/-- What every step keeps. -/
structure Orderly (server : Server) (r : Run ρ) : Prop where
  aligned : Aligned server r.poller
  asking : Asking server r.poller

variable {server : Server} {r : Run ρ}

theorem Orderly.canceling (h : Orderly server r) (e : Event ρ) :
    Canceling server r.now r.poller e (r.step server e).poller :=
  canceling_step e h.aligned h.asking

theorem Orderly.step (h : Orderly server r) (e : Event ρ) : Orderly server (r.step server e) :=
  ⟨(aligned_step r e h.aligned).1, (h.canceling e).asking h.asking⟩

theorem Orderly.after (h : Orderly server r) (es : List (Event ρ)) :
    Orderly server (r.after server es) :=
  after_induction (Orderly server) (fun _ e h => h.step e) es h

theorem orderly_start (server : Server) {s : PollSettings} {p : Poller ρ}
    (h : ofSettings s = .ok p) : Orderly server (start p) := by
  refine ⟨(sound_start server h).aligned, ?_⟩
  unfold ofSettings at h
  split at h
  · cases h
    exact asking_of_none rfl fun _ => rfl
  · cases h

/-- There is at most one call more than there are replies. -/
theorem Orderly.cancelCalls_le_after (h : Orderly server r) (es : List (Event ρ)) :
    (r.after server es).poller.cancelCalls + r.poller.outstanding ≤
      r.poller.cancelCalls + (r.after server es).poller.outstanding +
        cancelReplies server r es := by
  induction es generalizing r with
  | nil => exact Nat.le_add_right _ _
  | cons e es ih =>
    have hs := (h.canceling e).cancelCalls_add_outstanding_le
    have hr := ih (h.step e)
    rw [after_cons, cancelReplies]
    omega

/-- What the owner has asked before leads to one call at most, and what it asks now to one each. -/
theorem Orderly.cancelCalls_after_le (h : Orderly server r) (es : List (Event ρ)) :
    (r.after server es).poller.cancelCalls + (r.after server es).poller.pending ≤
      r.poller.cancelCalls + r.poller.pending + es.countP Event.isCancel := by
  induction es generalizing r with
  | nil => exact Nat.le_refl _
  | cons e es ih =>
    have hs := (h.canceling e).cancelCalls_add_pending_le h.asking
    have hr := ih (h.step e)
    have hc : (e :: es).countP Event.isCancel = es.countP Event.isCancel + e.isCancel.toNat := by
      rw [List.countP_cons]
      cases e.isCancel <;> rfl
    rw [after_cons, hc]
    omega

/-- Without a turn of the task there are no calls. -/
theorem cancelCalls_after_of_no_turn {es : List (Event ρ)} (hes : ∀ e ∈ es, e ≠ .turn) :
    (r.after server es).poller.cancelCalls = r.poller.cancelCalls := by
  have answered : ∀ (a : Answer) (p : Poller ρ), (p.answer a).cancelCalls = p.cancelCalls := by
    intro a p
    rw [answer_eq]
    rfl
  refine List.foldlRecOn es (step server)
    (motive := fun r' => r'.poller.cancelCalls = r.poller.cancelCalls) rfl ?_
  intro r' hr' e he
  refine Eq.trans ?_ hr'
  cases e with
  | submit request =>
    show (r'.poller.submit request).1.cancelCalls = _
    rcases submit_cases request r'.poller with h | ⟨-, -, h⟩ <;> rw [h]
    rfl
  | cancel =>
    show r'.poller.cancel.cancelCalls = _
    rcases cancel_cases r'.poller with h | ⟨-, -, h⟩ <;> rw [h]
    rfl
  | turn => exact absurd rfl (hes _ he)
  | submissionAnswered => exact answered _ _
  | pollAnswered => exact answered _ _
  | cancelAnswered => exact answered _ _
  | dispose | drop | pass => rfl

/-! ## The task takes its turns -/

/-- A poller that polls asks the server as its owner asks it to. -/
theorem Orderly.asks (h : Orderly server r) {t : Tracking} (hd : r.poller.disposed = false)
    (ht : r.poller.task = .tracking t) (hp : r.poller.phase = .polling) :
    (r.after server [.cancel, .turn]).poller.phase = .cancelling ∧
      (r.after server [.cancel, .turn]).poller.cancelCalls = r.poller.cancelCalls + 1 := by
  have ho : t.cancel = none := by
    cases hc : t.cancel with
    | none => rfl
    | some c =>
      have hf := h.asking.phase (by rw [cancelInFlight?_of_tracking ht, hc]; rfl)
      cases hp.symm.trans hf
  have hs : (r.step server .cancel).poller = { r.poller with cancels := r.poller.cancels + 1 } := by
    simp only [Run.step, Poller.cancel]
    exact if_neg (by simp [hd, hp])
  have hto : (r.step server .cancel).poller.turn r.now =
      some ((r.step server .cancel).poller.onCancel r.now t) := by
    rw [hs, turn_of_tracking r.now (by exact hd) (by exact ht), turnTracking,
      if_pos (Nat.succ_pos _)]
  rw [after_cons, after_turn (by exact hto), hs, after_nil]
  unfold Poller.onCancel
  simp only
  rw [if_neg (by simpa [hd, ho, Poller.phase] using hp), publish_of_not_disposed (by exact hd)]
  exact ⟨rfl, cancelCalls_of_call rfl⟩

/-- The reply is taken once the task has looked at all that its owner has asked for since. -/
theorem Orderly.takes_reply (h : Orderly server r) {t : Tracking} {reply : Except Failure Unit}
    (hd : r.poller.disposed = false) (ht : r.poller.task = .tracking t)
    (hr : t.cancel = some ⟨some reply⟩) :
    (r.after server (.replicate (r.poller.cancels + 1) .turn)).poller.cancelInFlight? = none ∧
      (r.after server (.replicate (r.poller.cancels + 1) .turn)).poller.state =
        replied reply r.poller.state := by
  generalize hn : r.poller.cancels = n
  induction n generalizing r with
  | zero =>
    have hp : r.poller.phase = .cancelling :=
      h.asking.phase (by rw [cancelInFlight?_of_tracking ht, hr]; rfl)
    have hto : r.poller.turn r.now = some (r.poller.onCancelled t reply) := by
      rw [turn_of_tracking r.now hd ht, turnTracking, if_neg (by omega), hr]
    rw [List.replicate_one, after_turn hto, after_nil]
    unfold Poller.onCancelled
    cases reply with
    | ok _ => exact ⟨rfl, rfl⟩
    | error f =>
      simp only
      rw [if_pos (by exact hp), publish_of_not_disposed (by exact hd)]
      exact ⟨rfl, rfl⟩
  | succ n ih =>
    have hto : r.poller.turn r.now = some { r.poller with cancels := n } := by
      rw [turn_of_tracking r.now hd ht, turnTracking, if_pos (by omega)]
      simp [Poller.onCancel, hr, hn]
    have hs : r.step server .turn = { r with poller := { r.poller with cancels := n } } := by
      simp only [Run.step, hto, Option.getD_some]
    rw [List.replicate_succ, after_cons, hs]
    exact ih (hs ▸ h.step .turn) hd ht rfl

/-- How the requests to cancel go out, from where a run stands and whatever comes next. -/
structure CancelsOnce (server : Server) (r : Run ρ) : Prop where
  /-- A call is under way only while the phase says so. -/
  phase : r.poller.cancelInFlight?.isSome = true → r.poller.phase = .cancelling
  /-- The task makes a call, for the job that it follows, as it goes over from polling to
  cancelling, and never else. -/
  calls : ∀ e, let r' := r.step server e
    (∃ job ∈ r.poller.state.value.job, server.submission = .ok job.id ∧
      r.poller.phase = .polling ∧ r'.poller.phase = .cancelling ∧
      r'.poller.calls = (r.now, .cancel job.id) :: r.poller.calls) ∨
    ¬ (r.poller.phase = .polling ∧ r'.poller.phase = .cancelling) ∧
      r'.poller.cancelLog = r.poller.cancelLog
  /-- What the owner asks between two turns of the task leads to one call at most. -/
  between : ∀ between more, (∀ e ∈ between, e ≠ .turn) →
    (r.after server (between ++ more)).poller.cancelCalls ≤
      r.poller.cancelCalls + 1 + more.countP Event.isCancel
  /-- What the owner asks in another phase leads to nothing. -/
  elsewhere : r.poller.phase ≠ .polling → ∀ more,
    r.after server (.cancel :: more) = r.after server more
  /-- A call is under way until the task ends or takes the reply to it: it polls again if that is
  an error, and else all is left as it is. -/
  underWay : ∀ c ∈ r.poller.cancelInFlight?, ∀ e, let r' := r.step server e
    r'.poller.cancelInFlight? = none → r'.poller.task = .ended ∨
      c.result = some (server.cancel r.poller.cancelCalls) ∧
        r'.poller.state = replied (server.cancel r.poller.cancelCalls) r.poller.state
  /-- Unless the poller is torn down, the task does ask when its owner asks it to. -/
  asks : r.poller.disposed = false → r.poller.phase = .polling →
    let r' := r.after server [.cancel, .turn]
    r'.poller.phase = .cancelling ∧ r'.poller.cancelCalls = r.poller.cancelCalls + 1
  /-- Unless the poller is torn down, the task takes the reply when it has one. -/
  takesReply : r.poller.disposed = false → r.poller.cancelInFlight?.isSome = true →
    let r' := r.after server (.cancelAnswered :: .replicate (r.poller.cancels + 1) .turn)
    r'.poller.cancelInFlight? = none ∧
      r'.poller.state = replied (server.cancel r.poller.cancelCalls) r.poller.state

/-- A poller that keeps what every step keeps, and follows a job while its phase says so. -/
theorem Orderly.cancelsOnce (h : Orderly server r)
    (hfollowed : r.poller.disposed = false →
      r.poller.phase = .polling ∨ r.poller.phase = .cancelling →
      ∃ t, r.poller.task = .tracking t) : CancelsOnce server r where
  phase := h.asking.phase
  calls e := (h.canceling e).calls h.asking
  between between more hbetween := by
    have hcalls : (r.after server between).poller.cancelCalls = r.poller.cancelCalls :=
      cancelCalls_after_of_no_turn hbetween
    have hpending := (r.after server between).poller.pending_le_one
    have hm := (h.after between).cancelCalls_after_le more
    rw [after_append]
    omega
  elsewhere hphase more := by
    have hc : r.poller.cancel = r.poller := if_pos (by simp [hphase])
    rw [after_cons, Run.step, hc]
  underWay c hc e hc' := (h.canceling e).state h.asking hc hc'
  asks hd hphase := by
    obtain ⟨t, ht⟩ := hfollowed hd (.inl hphase)
    exact h.asks hd ht hphase
  takesReply hd hsome := by
    obtain ⟨t, ht⟩ := hfollowed hd (.inr (h.asking.phase hsome))
    have hrun : (r.step server .cancelAnswered).poller.task = .tracking
        { t with cancel := t.cancel.map fun _ => ⟨some (server.cancel r.poller.cancelCalls)⟩ } := by
      simp only [Run.step, answer, ht]
    have hstate : (r.step server .cancelAnswered).poller.state = r.poller.state ∧
        (r.step server .cancelAnswered).poller.cancels = r.poller.cancels ∧
        (r.step server .cancelAnswered).poller.disposed = r.poller.disposed := by
      simp only [Run.step, answer, ht, and_self]
    rw [cancelInFlight?_of_tracking ht] at hsome
    obtain ⟨c, hc⟩ := Option.isSome_iff_exists.1 hsome
    have htaken :=
      (h.step .cancelAnswered).takes_reply (hstate.2.2.trans hd) hrun (by rw [hc]; rfl)
    rw [hstate.1, hstate.2.1] at htaken
    rw [after_cons]
    exact htaken

/-- Whatever the owner, the server and the task of a poller do, and in whatever order: there is at
most one call to cancel more than there are replies, and wherever the run stands the requests go out
once. -/
theorem cancel_requests_go_out_once (s : PollSettings) (h : 0 < s.intervalMs) (server : Server) :
    ∃ p : Poller ρ, ofSettings s = .ok p ∧ ∀ es : List (Event ρ),
      ((start p).after server es).poller.cancelCalls ≤ cancelReplies server (start p) es + 1 ∧
      CancelsOnce server ((start p).after server es) := by
  obtain ⟨p, hp⟩ := ofSettings_of_pos (ρ := ρ) h
  have hs := orderly_start server hp
  have hn : (start p).poller.cancelCalls = 0 := by
    unfold ofSettings at hp
    split at hp
    · cases hp; rfl
    · cases hp
  refine ⟨p, hp, fun es => ⟨?_, (hs.after es).cancelsOnce (exists_tracking hp)⟩⟩
  have hone := hs.cancelCalls_le_after es
  have hle := ((start p).after server es).poller.outstanding_le_one
  omega

/-- A server that does not cancel the job the first time. -/
def reluctant : Server where
  submission := .ok "job-1"
  status _ := .ok { jobId := "job-1", status := .running }
  cancel n := if n = 1 then .error ⟨.network, "reset"⟩ else .ok ()

/-- The owner asks three times at once, and once more after the reply was taken. -/
def insistent : List (Event String) :=
  [.submit "scan", .turn, .submissionAnswered, .turn, .cancel, .cancel, .cancel, .turn, .turn,
    .cancelAnswered, .turn, .turn, .cancel, .turn]

/-- Of four requests two reach the server, and the reply to the second one changes nothing. -/
theorem cancel_requests_go_out_once_reluctant :
    (0 : UInt64) < ({} : PollSettings).intervalMs ∧
      ∃ p : Poller String, ofSettings {} = .ok p ∧
        let r := (start p).after reluctant insistent
        r.poller.cancelCalls = 2 ∧ r.poller.cancelInFlight?.isSome = true ∧
        r.poller.phase = .cancelling ∧
        (r.after reluctant [.cancelAnswered, .turn]).poller.state = r.poller.state := by
  obtain ⟨p, hp, h⟩ := cancel_requests_go_out_once (ρ := String) {} (by decide) reluctant
  obtain ⟨-, honce⟩ := h insistent
  refine ⟨by decide, p, hp, ?_⟩
  cases hp
  exact ⟨rfl, rfl, honce.phase rfl, (honce.takesReply rfl rfl).2⟩

end Run

end BackendMonitor.Poller
