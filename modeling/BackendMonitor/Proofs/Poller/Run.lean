import BackendMonitor.Proofs.Poller.Turn

/-!
# Runs of a poller

A poller under a clock, with an owner, a server and a task that act in any order. What the server
answers to each call is fixed beforehand (`Server`); when an answer comes, if it ever does, is a
matter of the run, and so is how late the task takes its turns. A run is the list of what happens
(`Event`), and `Run.after` is what it leads to.

* `Run.after_induction`: what every step keeps holds after every run;
* `Run.after_of_ended`: a task that has ended changes nothing any more.
-/

namespace BackendMonitor.Poller

variable {ρ : Type}

/-- What a server answers: to the submission, and to each poll and each request to cancel, which
are counted from one. -/
structure Server where
  submission : Except Failure String
  status : Nat → Result
  cancel : Nat → Except Failure Unit

/-- The results of the first `n` polls, in order. -/
def Server.results (server : Server) (n : Nat) : List Result :=
  (List.range n).map fun k => server.status (k + 1)

theorem Server.results_succ (server : Server) (n : Nat) :
    server.results (n + 1) = server.results n ++ [server.status (n + 1)] := by
  simp [Server.results, List.range_succ]

/-- What can happen to a poller. -/
inductive Event (ρ : Type) where
  | submit (request : ρ)
  | cancel
  | dispose
  | drop
  /-- The submission is answered. -/
  | submissionAnswered
  /-- The poll under way is answered. -/
  | pollAnswered
  /-- The request to cancel under way is answered. -/
  | cancelAnswered
  /-- The task takes a turn. -/
  | turn
  /-- Time passes, in milliseconds. -/
  | pass (ms : Nat)

/-- Whether an event is the end of the poller. -/
def Event.isTeardown : Event ρ → Bool
  | .dispose | .drop => true
  | _ => false

/-! ## Calls -/

/-- Whether a call is a poll. -/
def Call.isPoll : Call ρ → Bool
  | .status _ => true
  | _ => false

/-- Whether a call asks to cancel the job. -/
def Call.isCancel : Call ρ → Bool
  | .cancel _ => true
  | _ => false

/-- The request that a call submits. -/
def Call.request? : Call ρ → Option ρ
  | .submit request => some request
  | _ => none

/-- How many polls were made. -/
def polls (p : Poller ρ) : Nat :=
  p.calls.countP (·.2.isPoll)

/-- How often the server was asked to cancel the job. -/
def cancelCalls (p : Poller ρ) : Nat :=
  p.calls.countP (·.2.isCancel)

/-- The requests that were submitted to the server, newest first. -/
def submissions (p : Poller ρ) : List ρ :=
  p.calls.filterMap (·.2.request?)

/-- Whether a poll is under way. -/
def isPolling (p : Poller ρ) : Bool :=
  match p.task with
  | .tracking t => t.poll.isSome
  | _ => false

/-- How many polls the task has taken the results of: all that were made but the one under way. -/
def taken (p : Poller ρ) : Nat :=
  if p.isPolling then p.polls - 1 else p.polls

/-! ## Runs -/

/-- A poller under a clock, with the requests of the submissions that it accepted, newest first. -/
structure Run (ρ : Type) where
  poller : Poller ρ
  now : Nat := 0
  accepted : List ρ := []

/-- An interval that is positive is accepted. -/
theorem ofSettings_of_pos {s : PollSettings} (h : 0 < s.intervalMs) :
    ∃ p : Poller ρ, ofSettings s = .ok p := by
  have h : 0 < s.intervalMs.toNat := UInt64.lt_iff_toNat_lt.1 h
  exact ⟨_, dif_pos h⟩

namespace Run

/-- A poller to which nothing has happened. -/
def start (p : Poller ρ) : Run ρ := { poller := p }

/-- One thing happens. -/
def step (server : Server) (r : Run ρ) : Event ρ → Run ρ
  | .submit request =>
    { r with
      poller := (r.poller.submit request).1
      accepted := if (r.poller.submit request).2 then request :: r.accepted else r.accepted }
  | .cancel => { r with poller := r.poller.cancel }
  | .dispose => { r with poller := r.poller.dispose }
  | .drop => { r with poller := r.poller.drop }
  | .submissionAnswered => { r with poller := r.poller.answer (.submitted server.submission) }
  | .pollAnswered => { r with poller := r.poller.answer (.status (server.status r.poller.polls)) }
  | .cancelAnswered =>
    { r with poller := r.poller.answer (.cancelled (server.cancel r.poller.cancelCalls)) }
  | .turn => { r with poller := (r.poller.turn r.now).getD r.poller }
  | .pass ms => { r with now := r.now + ms }

/-- What a run leads to. -/
def after (server : Server) (r : Run ρ) (es : List (Event ρ)) : Run ρ :=
  es.foldl (step server) r

@[simp] theorem after_nil (server : Server) (r : Run ρ) : r.after server [] = r := rfl

@[simp] theorem after_cons (server : Server) (r : Run ρ) (e : Event ρ) (es : List (Event ρ)) :
    r.after server (e :: es) = (r.step server e).after server es := rfl

theorem after_append (server : Server) (r : Run ρ) (es fs : List (Event ρ)) :
    r.after server (es ++ fs) = (r.after server es).after server fs :=
  List.foldl_append

/-- What every step keeps holds after every run. -/
theorem after_induction {server : Server} (motive : Run ρ → Prop)
    (hstep : ∀ r e, motive r → motive (r.step server e)) (es : List (Event ρ)) {r : Run ρ}
    (hr : motive r) : motive (r.after server es) := by
  refine List.foldlRecOn es (step server) hr ?_
  intro r hr e _
  exact hstep r e hr

/-- Whether the poller is not torn down among some events. -/
def Undisturbed (es : List (Event ρ)) : Prop :=
  ∀ e ∈ es, e.isTeardown = false

instance (es : List (Event ρ)) : Decidable (Undisturbed es) :=
  inferInstanceAs (Decidable (∀ e ∈ es, e.isTeardown = false))

/-- What every step but the end of the poller keeps holds as long as the poller is not torn down. -/
theorem after_induction_of_undisturbed {server : Server} (motive : Run ρ → Prop)
    (hstep : ∀ r e, e.isTeardown = false → motive r → motive (r.step server e))
    {es : List (Event ρ)} (hes : Undisturbed es) {r : Run ρ} (hr : motive r) :
    motive (r.after server es) := by
  refine List.foldlRecOn es (step server) hr ?_
  intro r hr e he
  exact hstep r e (hes e he) hr

/-- Once its task has ended a poller makes no calls, and its state stays as it is. -/
theorem after_of_ended {server : Server} {r : Run ρ} (ht : r.poller.task = .ended)
    (hp : r.poller.phase ≠ .idle) (es : List (Event ρ)) :
    (r.after server es).poller.task = .ended ∧
      (r.after server es).poller.state = r.poller.state ∧
      (r.after server es).poller.calls = r.poller.calls := by
  refine after_induction (fun r' => r'.poller.task = .ended ∧
    r'.poller.state = r.poller.state ∧ r'.poller.calls = r.poller.calls) ?_ es ⟨ht, rfl, rfl⟩
  rintro r' e ⟨ht, hs, hc⟩
  cases e with
  | submit request =>
    have hp' : r'.poller.phase ≠ .idle := by rwa [phase, hs]
    simp only [step, Poller.submit]
    rw [if_pos (by simp [hp'])]
    exact ⟨ht, hs, hc⟩
  | cancel =>
    simp only [step, Poller.cancel]
    split <;> exact ⟨ht, hs, hc⟩
  | turn =>
    have hn : r'.poller.turn r'.now = none := turn_eq_none_of_not_running (by simp [isRunning, ht])
    simp only [step, hn]
    exact ⟨ht, hs, hc⟩
  | submissionAnswered | pollAnswered | cancelAnswered =>
    simp only [step, answer, ht]
    exact ⟨trivial, hs, hc⟩
  | dispose | drop | pass => exact ⟨ht, hs, hc⟩

end Run

end BackendMonitor.Poller
