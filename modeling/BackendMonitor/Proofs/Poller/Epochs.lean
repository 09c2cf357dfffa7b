import BackendMonitor.Proofs.Poller.CancelRequests
import BackendMonitor.Proofs.Poller.Teardown
import BackendMonitor.Proofs.Poller.Timetable

/-!
# The numbers of polls

A task numbers its polls, and refuses the result of a poll if one with its number or a later one was
accepted before. Since it has one poll under way at a time, the number of that poll is the next one
to be accepted: no result is refused, and each one that the task comes to look at is taken, once, in
the order of the polls.

* `Epochs.accepted`: the numbers that are accepted, whatever is asked, in whatever order;
* `Run.takenResults`: the results that the task takes in the course of a run;
* `Run.Tally`: how many polls there are for the results that were taken, which every step keeps;
* `Run.takes_result`: a result is taken, though what concerns canceling comes first;
* `Run.Paced`: there are no more polls than periods have passed;
* `Run.TakesInOrder`: how results are taken, and `Run.results_are_taken_once_in_order`: so they are
  in every run.
-/

namespace BackendMonitor

/-! ## The numbers on their own -/

namespace Epochs

/-- What can be asked of the numbers of polls. -/
inductive Request where
  | issue
  | accept (epoch : Nat)
deriving DecidableEq, Repr

/-- The numbers after a request; one that is refused changes nothing. -/
def handle (e : Epochs) : Request → Epochs
  | .issue => e.issue
  | .accept epoch => (e.accept? epoch).getD e

/-- The numbers after some requests. -/
def after (e : Epochs) (rs : List Request) : Epochs :=
  rs.foldl handle e

/-- The numbers that are accepted among some requests, in order. -/
def accepted (e : Epochs) : List Request → List Nat
  | [] => []
  | .issue :: rs => e.issue.accepted rs
  | .accept epoch :: rs =>
    match e.accept? epoch with
    | none => e.accepted rs
    | some e' => epoch :: e'.accepted rs

variable {e : Epochs} {epoch : Nat}

theorem accept?_eq_none_iff : e.accept? epoch = none ↔ epoch ≤ e.applied := by
  simp [accept?]

theorem accept?_of_lt (h : e.applied < epoch) :
    e.accept? epoch = some { e with applied := epoch } :=
  if_neg (Nat.not_le.2 h)

/-- A request to accept is refused, or what it asks for is the last number that was accepted. -/
theorem accept_cases (e : Epochs) (epoch : Nat) (rs : List Request) :
    epoch ≤ e.applied ∧ e.after (.accept epoch :: rs) = e.after rs ∧
        e.accepted (.accept epoch :: rs) = e.accepted rs ∨
      e.applied < epoch ∧
        e.after (.accept epoch :: rs) = ({ e with applied := epoch } : Epochs).after rs ∧
        e.accepted (.accept epoch :: rs) =
          epoch :: ({ e with applied := epoch } : Epochs).accepted rs := by
  rw [accepted, after, List.foldl_cons, handle]
  rcases Nat.lt_or_ge e.applied epoch with h | h
  · rw [accept?_of_lt h]
    exact .inr ⟨h, rfl, rfl⟩
  · rw [accept?_eq_none_iff.2 h]
    exact .inl ⟨h, rfl, rfl⟩

/-- What is accepted is greater than all that was accepted before. -/
theorem pairwise_accepted (e : Epochs) (rs : List Request) :
    (e.applied :: e.accepted rs).Pairwise (· < ·) := by
  induction rs generalizing e with
  | nil => exact List.pairwise_singleton _ _
  | cons request rs ih =>
    cases request with
    | issue => exact ih e.issue
    | accept epoch =>
      rcases accept_cases e epoch rs with ⟨-, -, ha⟩ | ⟨h, -, ha⟩
      · rw [ha]
        exact ih e
      · have hrest := ih { e with applied := epoch }
        rw [ha]
        refine List.pairwise_cons.2 ⟨fun a ha => ?_, hrest⟩
        rcases List.mem_cons.1 ha with rfl | ha
        · exact h
        · exact Nat.lt_trans h (List.rel_of_pairwise_cons hrest ha)

/-- The last number that was accepted is the greatest one. -/
theorem le_applied_after_iff (e : Epochs) (rs : List Request) (epoch : Nat) :
    epoch ≤ (e.after rs).applied ↔ epoch ≤ e.applied ∨ ∃ a ∈ e.accepted rs, epoch ≤ a := by
  induction rs generalizing e with
  | nil => simp [after, accepted]
  | cons request rs ih =>
    cases request with
    | issue => exact ih e.issue
    | accept number =>
      rcases accept_cases e number rs with ⟨-, hafter, ha⟩ | ⟨h, hafter, ha⟩
      · rw [hafter, ha]
        exact ih e
      · rw [hafter, ha, ih]
        simp only [List.exists_mem_cons_iff]
        refine ⟨.inr, ?_⟩
        rintro (hle | hle)
        · exact .inl (Nat.le_of_lt (Nat.lt_of_le_of_lt hle h))
        · exact hle

end Epochs

namespace Poller

variable {ρ : Type}

/-! ## Polls and results -/

/-- Whether the task takes a turn. -/
def Event.isTurn : Event ρ → Bool
  | .turn => true
  | _ => false

/-- The poll that the task has under way. -/
def inFlight? (p : Poller ρ) : Option PollInFlight :=
  match p.task with
  | .tracking t => t.poll
  | _ => none

/-- How many turns what concerns canceling takes of the task before it looks at its poll: one for
each request of the owner, and one for the reply of the server. -/
def backlog (p : Poller ρ) : Nat :=
  p.cancels + (p.cancelInFlight?.any (·.result.isSome)).toNat

theorem backlog_le (p : Poller ρ) : p.cancels ≤ p.backlog ∧ p.backlog ≤ p.cancels + 1 :=
  ⟨Nat.le_add_right _ _, Nat.add_le_add_left (Bool.toNat_le _) _⟩

/-- The poll under way is the last one, and it is answered. -/
def Answered (server : Server) (p : Poller ρ) : Prop :=
  p.inFlight? = some ⟨p.polls, some (server.status p.polls)⟩

theorem inFlight?_of_tracking {p : Poller ρ} {t : Tracking} (ht : p.task = .tracking t) :
    p.inFlight? = t.poll := by
  unfold inFlight?
  rw [ht]

theorem isPolling_eq_isSome (p : Poller ρ) : p.isPolling = p.inFlight?.isSome := by
  unfold isPolling inFlight?
  cases p.task <;> rfl

theorem Answered.isPolling {server : Server} {p : Poller ρ} (h : Answered server p) :
    p.isPolling = true := by
  rw [isPolling_eq_isSome, h]
  rfl

/-- A poller that polls follows a job. -/
theorem exists_tracking_of_isPolling {p : Poller ρ} (h : p.isPolling = true) :
    ∃ t f, p.task = .tracking t ∧ t.poll = some f := by
  unfold Poller.isPolling at h
  split at h
  · next t ht =>
    obtain ⟨f, hf⟩ := Option.isSome_iff_exists.1 h
    exact ⟨t, f, ht, hf⟩
  · cases h

/-- A turn takes the result of the poll under way, unless the poller was torn down, or something
that concerns canceling comes first. -/
theorem Turn.of_isPolling {server : Server} {now : Nat} {p p' : Poller ρ} (h : Turn now p p')
    (ha : Aligned server p) (hp : p.isPolling = true) :
    p'.polls = p.polls ∧
      (p.disposed = true ∧ p'.task = .ended ∨
        p.disposed = false ∧ Answered server p ∧ p'.isPolling = false ∨
        p'.inFlight? = p.inFlight? ∧ p'.disposed = p.disposed ∧ p'.backlog < p.backlog) := by
  cases h with
  | stop hd => exact ⟨rfl, .inl ⟨hd, rfl⟩⟩
  | submit hd ht | refused hd ht | accepted hd ht => simp [Poller.isPolling, ht] at hp
  | ignore hd ht hc =>
    refine ⟨rfl, .inr (.inr ⟨rfl, rfl, ?_⟩)⟩
    exact Nat.add_lt_add_right (Nat.sub_lt hc Nat.one_pos) _
  | @askCancel t hd ht hc ho =>
    refine ⟨polls_cancel now t.jobId p, .inr (.inr ⟨(inFlight?_of_tracking ht).symm, rfl, ?_⟩)⟩
    show p.cancels - 1 + 0 < p.backlog
    rw [backlog]
    omega
  | cancelled hd ht hc hr | resume hd ht hc hr =>
    refine ⟨rfl, .inr (.inr ⟨(inFlight?_of_tracking ht).symm, rfl, ?_⟩)⟩
    rw [backlog, backlog, cancelInFlight?_of_tracking ht, hr]
    exact Nat.lt_succ_self _
  | @polled t epoch result hd ht hc hr =>
    obtain ⟨-, -, hi⟩ := ha.tracking ht
    obtain ⟨rfl, -, rfl⟩ := hi.fresh hr
    obtain ⟨job, -, hq⟩ := ha.polled hd ht hr
    refine ⟨by rw [polls, hq.frame.1, ← polls], .inr (.inl ⟨hd, ?_, ?_⟩)⟩
    · exact (inFlight?_of_tracking ht).trans hr
    · obtain ⟨-, he | ⟨t', he, -, -, hp'⟩⟩ := task_onPolled t p.polls (server.status p.polls) p
      · rw [Poller.isPolling, he]
      · rw [Poller.isPolling, he]
        show t'.poll.isSome = false
        rw [hp']
        rfl
  | poll hd ht hc hn => simp [Poller.isPolling, ht, hn] at hp

namespace Run

variable {server : Server} {r : Run ρ}

/-- The number and the result of the poll that ends with an event, if one does so before the poller
is torn down: the task has taken a look at the result. -/
def takenResult? (server : Server) (r : Run ρ) (e : Event ρ) : Option (Nat × Result) :=
  if r.poller.disposed || (r.step server e).poller.isPolling then none
  else r.poller.inFlight?.bind fun f => f.result.map fun result => (f.epoch, result)

/-- The results that the task takes a look at in the course of some events, in order, with the
numbers of their polls. -/
def takenResults (server : Server) : Run ρ → List (Event ρ) → List (Nat × Result)
  | _, [] => []
  | r, e :: es => (r.takenResult? server e).toList ++ takenResults server (r.step server e) es

theorem takenResults_append (es fs : List (Event ρ)) :
    r.takenResults server (es ++ fs) =
      r.takenResults server es ++ (r.after server es).takenResults server fs := by
  induction es generalizing r with
  | nil => rfl
  | cons e es ih =>
    rw [List.cons_append, takenResults, takenResults, ih, List.append_assoc, after_cons]

theorem takenResult?_of_isPolling {e : Event ρ} (h : (r.step server e).poller.isPolling = true) :
    r.takenResult? server e = none := by
  rw [takenResult?, h, Bool.or_true, if_pos rfl]

theorem takenResult?_of_idle {e : Event ρ} (h : r.poller.isPolling = false) :
    r.takenResult? server e = none := by
  rw [isPolling_eq_isSome, Option.isSome_eq_false_iff, Option.isNone_iff_eq_none] at h
  rw [takenResult?, h, Option.bind_none, ite_self]

theorem takenResult?_of_answered {e : Event ρ} (hd : r.poller.disposed = false)
    (hr : Answered server r.poller) (h : (r.step server e).poller.isPolling = false) :
    r.takenResult? server e = some (r.poller.polls, server.status r.poller.polls) := by
  rw [takenResult?, hd, h, if_neg (by decide), hr]
  rfl

/-- Only a turn of the task makes polls or ends them. -/
theorem isPolling_step_of_ne_turn (ha : Aligned server r.poller) {e : Event ρ} (he : e ≠ .turn) :
    (r.step server e).poller.polls = r.poller.polls ∧
      (r.step server e).poller.isPolling = r.poller.isPolling := by
  have answered : ∀ a, (r.poller.answer a).polls = r.poller.polls ∧
      (r.poller.answer a).isPolling = r.poller.isPolling := by
    intro a
    refine ⟨by rw [answer_eq]; rfl, ?_⟩
    unfold answer
    split
    · next ht => simp [Poller.isPolling, ht]
    · next ht => simp [Poller.isPolling, ht]
    · next ht => simp [Poller.isPolling, ht]
    · rfl
  cases e with
  | submit request =>
    show (r.poller.submit request).1.polls = _ ∧ (r.poller.submit request).1.isPolling = _
    rcases submit_cases request r.poller with h | ⟨-, hp, h⟩
    · rw [h]
      exact ⟨rfl, rfl⟩
    · have ht : r.poller.task = .unstarted :=
        Classical.byContradiction fun ht => ha.phase_ne_idle ht hp
      rw [h]
      exact ⟨rfl, by simp [Poller.isPolling, ht]⟩
  | cancel =>
    show r.poller.cancel.polls = _ ∧ r.poller.cancel.isPolling = _
    rcases cancel_cases r.poller with h | ⟨-, -, h⟩ <;> rw [h] <;> exact ⟨rfl, rfl⟩
  | turn => exact absurd rfl he
  | submissionAnswered => exact answered _
  | pollAnswered => exact answered _
  | cancelAnswered => exact answered _
  | dispose | drop | pass => exact ⟨rfl, rfl⟩

/-- A poll that is under way stays so, unless the task takes its result, or ends with the poller. -/
theorem polling_step (ha : Aligned server r.poller) (hp : r.poller.isPolling = true) (e : Event ρ) :
    (r.step server e).poller.polls = r.poller.polls ∧
      ((r.step server e).poller.isPolling = true ∨
        r.poller.disposed = true ∧ (r.step server e).poller.task = .ended ∨
        r.poller.disposed = false ∧ Answered server r.poller ∧
          (r.step server e).poller.isPolling = false) := by
  by_cases he : e = .turn
  · subst he
    simp only [step]
    cases ht : r.poller.turn r.now with
    | none => exact ⟨rfl, .inl hp⟩
    | some p =>
      obtain ⟨hn, h⟩ := (turn_eq_some ht).of_isPolling ha hp
      refine ⟨hn, ?_⟩
      rcases h with h | h | ⟨h, -⟩
      · exact .inr (.inl h)
      · exact .inr (.inr h)
      · left
        show p.isPolling = true
        rw [isPolling_eq_isSome, h, ← isPolling_eq_isSome, hp]
  · obtain ⟨hn, hp'⟩ := isPolling_step_of_ne_turn ha he
    exact ⟨hn, .inl (hp'.trans hp)⟩

/-- When no poll is under way, one is made or none. -/
theorem idle_step (ha : Aligned server r.poller) (hp : r.poller.isPolling = false) (e : Event ρ) :
    (r.step server e).poller.polls = r.poller.polls ∧
        (r.step server e).poller.isPolling = false ∨
      (r.step server e).poller.polls = r.poller.polls + 1 ∧
        (r.step server e).poller.isPolling = true := by
  have idle : ∀ {k f}, r.poller.timing? ≠ some (k, some f) := by
    intro k f h
    rw [isPolling_eq, h] at hp
    cases hp
  cases timing_step e ha with
  | accepted _ _ ht' hs => exact .inl ⟨polls_of_starts_eq hs, by rw [isPolling_eq, ht']; rfl⟩
  | made _ _ ht' _ hs => exact .inr ⟨polls_of_starts_eq_cons hs, by rw [isPolling_eq, ht']; rfl⟩
  | answered _ ht => exact absurd ht idle
  | taken ht => exact absurd ht idle
  | ended ht' hs => exact .inl ⟨polls_of_starts_eq hs, by rw [Poller.isPolling, ht']⟩
  | apart ht' hs =>
    exact .inl ⟨polls_of_starts_eq hs, by rw [isPolling_eq, ht', ← isPolling_eq, hp]⟩

/-- A task that has ended stays so, and makes no polls. -/
theorem step_of_ended (ha : Aligned server r.poller) (ht : r.poller.task = .ended) (e : Event ρ) :
    (r.step server e).poller.task = .ended ∧
      (r.step server e).poller.polls = r.poller.polls := by
  have hi := ha.phase_ne_idle (by rw [ht]; exact fun h => (by cases h))
  have hafter : (r.after server [e]).poller.task = .ended ∧
      (r.after server [e]).poller.state = r.poller.state ∧
      (r.after server [e]).poller.calls = r.poller.calls := after_of_ended ht hi [e]
  exact ⟨hafter.1, congrArg (List.countP _) hafter.2.2⟩

/-- Of all polls that were made the results of `n` were taken. The poll that is missing, if there is
one, is under way, or was so when the poller was torn down. -/
structure Tally (server : Server) (n : Nat) (r : Run ρ) : Prop where
  aligned : Aligned server r.poller
  polls : r.poller.polls = n ∧ r.poller.isPolling = false ∨
    r.poller.polls = n + 1 ∧
      (r.poller.isPolling = true ∨ r.poller.disposed = true ∧ r.poller.task = .ended)

/-- A step takes the result of the next poll, or none. -/
theorem Tally.step {n : Nat} (h : Tally server n r) (e : Event ρ) :
    r.takenResult? server e = none ∧ Tally server n (r.step server e) ∨
      r.takenResult? server e = some (n + 1, server.status (n + 1)) ∧
        Tally server (n + 1) (r.step server e) := by
  have ha := (aligned_step r e h.aligned).1
  have hdisposed : r.poller.disposed = true → (r.step server e).poller.disposed = true :=
    fun hd => ((Over.refl hd).step e).disposed
  rcases h.polls with ⟨hn, hp⟩ | ⟨hn, hp | ⟨hd, ht⟩⟩
  · refine .inl ⟨takenResult?_of_idle hp, ha, ?_⟩
    rw [← hn]
    exact (idle_step h.aligned hp e).imp_right fun h => ⟨h.1, .inl h.2⟩
  · obtain ⟨hn', hp' | ⟨hd, ht'⟩ | ⟨hd, hr, hp'⟩⟩ := polling_step h.aligned hp e
    · exact .inl ⟨takenResult?_of_isPolling hp', ha, .inr ⟨hn'.trans hn, .inl hp'⟩⟩
    · refine .inl ⟨by rw [takenResult?, hd]; rfl, ha, .inr ⟨hn'.trans hn, .inr ⟨?_, ht'⟩⟩⟩
      exact hdisposed hd
    · refine .inr ⟨?_, ha, .inl ⟨hn'.trans hn, hp'⟩⟩
      rw [takenResult?_of_answered hd hr hp', hn]
  · obtain ⟨ht', hn'⟩ := step_of_ended h.aligned ht e
    refine .inl ⟨by rw [takenResult?, hd]; rfl, ha, .inr ⟨hn'.trans hn, .inr ⟨?_, ht'⟩⟩⟩
    exact hdisposed hd

/-- The results that a run takes are those of the next polls. -/
theorem Tally.after {n : Nat} (h : Tally server n r) (es : List (Event ρ)) :
    ∃ k, r.takenResults server es = (List.range' (n + 1) k).map (fun i => (i, server.status i)) ∧
      Tally server (n + k) (r.after server es) := by
  induction es generalizing r n with
  | nil => exact ⟨0, rfl, h⟩
  | cons e es ih =>
    rcases h.step e with ⟨hnone, hs⟩ | ⟨hsome, hs⟩
    · obtain ⟨k, hk, ht⟩ := ih hs
      exact ⟨k, by rw [takenResults, hnone, hk]; rfl, ht⟩
    · obtain ⟨k, hk, ht⟩ := ih hs
      refine ⟨k + 1, by rw [takenResults, hsome, hk]; rfl, ?_⟩
      rw [show n + (k + 1) = n + 1 + k by omega]
      exact ht

/-! ## Progress -/

/-- A result that has come is taken by a turn, or the turn takes something off the backlog. -/
theorem answered_turn (ha : Aligned server r.poller) (hd : r.poller.disposed = false)
    (hr : Answered server r.poller) :
    r.takenResult? server .turn = some (r.poller.polls, server.status r.poller.polls) ∨
      (r.step server .turn).poller.disposed = false ∧
        Answered server (r.step server .turn).poller ∧
        (r.step server .turn).poller.polls = r.poller.polls ∧
        (r.step server .turn).poller.backlog + 1 ≤ r.poller.backlog := by
  obtain ⟨t, f, ht, hf⟩ := exists_tracking_of_isPolling hr.isPolling
  cases hto : r.poller.turn r.now with
  | none =>
    -- A task that has nothing to do waits for the answer.
    have hwait := ((turn_eq_none_iff_of_tracking hd ht).1 hto).2.1 f hf
    rw [Answered, inFlight?_of_tracking ht, hf] at hr
    cases hr
    cases hwait
  | some p =>
    have hs : (r.step server .turn).poller = p := by simp only [step, hto, Option.getD_some]
    obtain ⟨hn, ⟨hd', -⟩ | ⟨-, -, hp⟩ | ⟨hp, hd', hb⟩⟩ :=
      (turn_eq_some hto).of_isPolling ha hr.isPolling
    · cases hd.symm.trans hd'
    · exact .inl (takenResult?_of_answered hd hr (by rw [hs, hp]))
    · rw [hs]
      refine .inr ⟨hd'.trans hd, ?_, hn, hb⟩
      rw [Answered, hp, hn]
      exact hr

/-- A result that has come stays, whatever else happens, and the backlog only grows by what the
owner asks for and by replies to that. -/
theorem answered_step (ha : Aligned server r.poller) (hd : r.poller.disposed = false)
    (hr : Answered server r.poller) {e : Event ρ} (he : e.isTeardown = false) (ht : e ≠ .turn) :
    (r.step server e).poller.disposed = false ∧ Answered server (r.step server e).poller ∧
      (r.step server e).poller.polls = r.poller.polls ∧
      (r.step server e).poller.backlog ≤
        r.poller.backlog + e.isCancel.toNat + e.isCancelReply.toNat := by
  have same : ∀ {p : Poller ρ}, p = r.poller → p.disposed = false ∧ Answered server p ∧
      p.polls = r.poller.polls ∧
      p.backlog ≤ r.poller.backlog + e.isCancel.toNat + e.isCancelReply.toNat := by
    rintro p rfl
    exact ⟨hd, hr, rfl, by omega⟩
  obtain ⟨t, f, htask, hf⟩ := exists_tracking_of_isPolling hr.isPolling
  have hpoll := hr
  rw [Answered, inFlight?_of_tracking htask] at hpoll
  cases e with
  | submit request =>
    rcases submit_cases request r.poller with h | ⟨-, hp, -⟩
    · exact same h
    · exact absurd hp (ha.phase_ne_idle (by rw [htask]; exact fun h => (by cases h)))
  | cancel =>
    rcases cancel_cases r.poller with h | ⟨-, -, h⟩
    · exact same h
    · simp only [step, h]
      refine ⟨hd, hr, rfl, ?_⟩
      show r.poller.cancels + 1 + (r.poller.cancelInFlight?.any (·.result.isSome)).toNat ≤
        r.poller.backlog + 1 + 0
      rw [backlog]
      omega
  | dispose | drop => cases he
  | submissionAnswered => exact same (by simp only [step, answer, htask])
  | pollAnswered =>
    simp only [step, answer, htask, hpoll]
    refine ⟨hd, rfl, rfl, ?_⟩
    show r.poller.cancels + _ ≤ r.poller.backlog + 0 + 0
    rw [backlog, cancelInFlight?_of_tracking htask]
    exact Nat.le_refl _
  | cancelAnswered =>
    simp only [step, answer, htask]
    refine ⟨hd, hpoll, rfl, ?_⟩
    exact Nat.le_trans (backlog_le _).2 (Nat.succ_le_succ (backlog_le r.poller).1)
  | turn => exact absurd rfl ht
  | pass ms => exact same rfl

/-- The answer to the poll under way comes. -/
theorem answered_of_isPolling (ha : Aligned server r.poller) (hp : r.poller.isPolling = true) :
    Answered server (r.step server .pollAnswered).poller ∧
      (r.step server .pollAnswered).poller.polls = r.poller.polls ∧
      (r.step server .pollAnswered).poller.disposed = r.poller.disposed ∧
      (r.step server .pollAnswered).poller.backlog = r.poller.backlog := by
  obtain ⟨t, f, ht, hf⟩ := exists_tracking_of_isPolling hp
  obtain ⟨-, -, hi⟩ := ha.tracking ht
  obtain ⟨he, -, -⟩ := hi.busy f hf
  have hs : (r.step server .pollAnswered).poller =
      { r.poller with
        task := .tracking
          { t with poll := some ⟨r.poller.polls, some (server.status r.poller.polls)⟩ } } := by
    simp only [step, answer, ht, hf, Option.map_some, he]
  rw [hs]
  refine ⟨rfl, rfl, rfl, ?_⟩
  rw [backlog, backlog, cancelInFlight?_of_tracking ht]
  rfl

/-- A result that has come is taken once the task has taken more turns than what concerns canceling
needs, of what there is and of what comes in the meantime. -/
theorem takes_result {es : List (Event ρ)} (ha : Aligned server r.poller)
    (hd : r.poller.disposed = false) (hr : Answered server r.poller) (hes : Undisturbed es)
    (hlt : r.poller.backlog + es.countP Event.isCancel + es.countP Event.isCancelReply <
      es.countP Event.isTurn) :
    ∃ rest, r.takenResults server es =
      (r.poller.polls, server.status r.poller.polls) :: rest := by
  induction es generalizing r with
  | nil => exact absurd hlt (Nat.not_lt_zero _)
  | cons e es ih =>
    have hes' : Undisturbed es := fun e' he' => hes e' (List.mem_cons_of_mem e he')
    have ha' := (aligned_step r e ha).1
    have count : ∀ q : Event ρ → Bool, (e :: es).countP q = es.countP q + (q e).toNat := by
      intro q
      rw [List.countP_cons]
      cases q e <;> rfl
    rw [count, count, count] at hlt
    rw [takenResults]
    by_cases he : e = .turn
    · subst he
      rcases answered_turn ha hd hr with h | ⟨hd', hr', hn, hb⟩
      · rw [h]
        exact ⟨_, rfl⟩
      · rw [takenResult?_of_isPolling hr'.isPolling, ← hn]
        refine ih ha' hd' hr' hes' ?_
        simp only [Event.isCancel, Event.isCancelReply, Event.isTurn, Bool.toNat_false,
          Bool.toNat_true] at hlt
        omega
    · obtain ⟨hd', hr', hn, hb⟩ := answered_step ha hd hr (hes e List.mem_cons_self) he
      rw [takenResult?_of_isPolling hr'.isPolling, ← hn]
      refine ih ha' hd' hr' hes' ?_
      have hturn : e.isTurn.toNat = 0 := by
        cases e with
        | turn => exact absurd rfl he
        | _ => rfl
      omega

/-! ## Numbers and time -/

/-- A poller that is being told of its submission has made no polls. -/
theorem polls_eq_zero_of_submitting {p : Poller ρ} (ha : Aligned server p)
    (hp : p.phase = .submitting) (ht : p.task ≠ .ended) : p.polls = 0 := by
  unfold Aligned at ha
  split at ha
  · exact ha.2
  · exact ha.2
  · exact ha.2.1
  · rcases ha.1.phase with h | h <;> cases h.symm.trans hp
  · next h => exact absurd h ht

/-- As many polls were made as periods have passed, at most, and the next one has yet to wait for a
period of its own. -/
structure Paced (server : Server) (period : Nat) (r : Run ρ) : Prop
    extends Ticked server period r where
  room : ∀ k f, r.poller.timing? = some (k, f) → (r.poller.polls + 1) * period ≤ k.due
  clock : r.poller.polls * period ≤ r.now

theorem Paced.step {period : Nat} (h : Paced server period r) (e : Event ρ) :
    Paced server period (r.step server e) := by
  have hle := now_le_step server r e
  have stay : (r.step server e).poller.starts = r.poller.starts →
      (∀ k f, (r.step server e).poller.timing? = some (k, f) →
        (r.poller.polls + 1) * period ≤ k.due) → Paced server period (r.step server e) := by
    intro hs hroom
    have hn := polls_of_starts_eq hs
    exact ⟨h.toTicked.step e, hn ▸ hroom, hn ▸ Nat.le_trans h.clock hle⟩
  have htiming : Timing r.now e r.poller (r.step server e).poller := timing_step e h.aligned
  cases htiming with
  | accepted hp ht ht' hs =>
    have hended : r.poller.task ≠ .ended := by
      intro he
      have he' := (step_of_ended h.aligned he e).1
      have hnone : (r.step server e).poller.timing? = none := by rw [timing?, he']
      cases ht'.symm.trans hnone
    have hn := polls_eq_zero_of_submitting h.aligned hp hended
    refine stay hs fun k f hk => ?_
    rw [ht'] at hk
    cases hk
    rw [hn, h.period_eq, Nat.zero_add, Nat.one_mul]
    exact Nat.le_add_left _ _
  | @made k f ht hdue ht' hf hs =>
    have hn := polls_of_starts_eq_cons hs
    have hroom := h.room k none ht
    obtain ⟨hperiod, -⟩ := h.ticker k none ht
    have htake := Ticker.add_period_le_due_take hdue
    refine ⟨h.toTicked.step e, fun k' f' hk' => ?_, ?_⟩
    · rw [ht'] at hk'
      cases hk'
      rw [hn, Nat.add_one_mul (r.poller.polls + 1)]
      omega
    · rw [hn]
      omega
  | answered he ht ht' hf hs =>
    refine stay hs fun k' f' hk' => ?_
    rw [ht'] at hk'
    cases hk'
    exact h.room _ _ ht
  | taken ht hf ht' hs =>
    refine stay hs fun k' f' hk' => ?_
    rw [ht'] at hk'
    cases hk'
    exact h.room _ _ ht
  | ended ht' hs => exact stay hs fun k' f' hk' => by simp [timing?, ht'] at hk'
  | apart ht' hs => exact stay hs fun k' f' hk' => h.room k' f' (ht' ▸ hk')

theorem paced_after (server : Server) {s : PollSettings} {p : Poller ρ} (h : ofSettings s = .ok p)
    (es : List (Event ρ)) : Paced server s.intervalMs.toNat ((start p).after server es) := by
  refine after_induction (Paced server s.intervalMs.toNat) (fun r e h => h.step e) es
    ⟨ticked_after server h [], fun k f hk => ?_, ?_⟩
  · have hnone : p.timing? = none := by rw [timing?, (new_of_ofSettings h).1]
    cases hnone.symm.trans hk
  · show p.polls * _ ≤ 0
    rw [polls_of_ofSettings h, Nat.zero_mul]

/-! ## Runs -/

theorem tally_after (server : Server) {s : PollSettings} {p : Poller ρ} (h : ofSettings s = .ok p)
    (es : List (Event ρ)) :
    ∃ n, (start p).takenResults server es =
        (List.range' 1 n).map (fun i => (i, server.status i)) ∧
      Tally server n ((start p).after server es) := by
  have hidle : p.isPolling = false := by rw [Poller.isPolling, (new_of_ofSettings h).1]
  have h₀ : Tally server 0 (start p) :=
    ⟨(sound_start server h).aligned, .inl ⟨polls_of_ofSettings h, hidle⟩⟩
  obtain ⟨n, hn, ht⟩ := h₀.after es
  exact ⟨n, hn, Nat.zero_add n ▸ ht⟩

theorem undisturbed_of_not_disposed {es : List (Event ρ)}
    (h : (r.after server es).poller.disposed = false) : Undisturbed es := by
  intro e he
  obtain ⟨before, rest, rfl⟩ := List.append_of_mem he
  refine Bool.eq_false_iff.2 fun ht => ?_
  have hover : Over (r.after server before) ((r.after server before).step server e) :=
    .of_teardown ht
  rw [after_append, after_cons] at h
  exact Bool.false_ne_true (h.symm.trans (hover.after rest).disposed)

/-- Until the poller is torn down, the results that were taken are those that it stands for. -/
theorem Tally.taken_eq {n : Nat} (h : Tally server n r) (hd : r.poller.disposed = false) :
    r.poller.taken = n := by
  unfold Poller.taken
  rcases h.polls with ⟨hn, hp⟩ | ⟨hn, hp | ⟨hd', -⟩⟩
  · rw [hp, if_neg (by decide), hn]
  · rw [hp, if_pos rfl, hn, Nat.add_sub_cancel]
  · cases hd.symm.trans hd'

/-- How a run takes the results of its polls, where it has taken `results` so far. -/
structure TakesInOrder (server : Server) (s : PollSettings) (r : Run ρ)
    (results : List (Nat × Result)) : Prop where
  issued : ∀ t, r.poller.task = .tracking t → t.epochs.issued = r.poller.polls
  /-- The last number that was issued has been accepted, unless a poll is under way. -/
  accepted : ∀ t, r.poller.task = .tracking t → t.poll = none →
    t.epochs.applied = t.epochs.issued
  /-- The number of the poll under way is the one after the last that was accepted, so that it is
  not refused. -/
  notRefused : ∀ t, r.poller.task = .tracking t → ∀ f ∈ t.poll,
    f.epoch = t.epochs.issued ∧ t.epochs.issued = t.epochs.applied + 1 ∧
      t.epochs.accept? f.epoch = some { t.epochs with applied := f.epoch }
  /-- The results that the task takes a look at are those of the polls, each of them once, and in
  their order. -/
  once : results = (List.range' 1 results.length).map (fun k => (k, server.status k))
  /-- No result is left out but that of a poll that is under way, or was so when the poller was torn
  down. -/
  noneLeftOut : r.poller.polls = results.length ∧ r.poller.isPolling = false ∨
    r.poller.polls = results.length + 1 ∧ (r.poller.isPolling = true ∨ r.poller.disposed = true)
  taken : r.poller.disposed = false → r.poller.taken = results.length
  /-- Until the poller is torn down, the job is what the results make of it, and it is followed until
  the first of them that is an ending. -/
  effect : r.poller.disposed = false → 0 < r.poller.polls →
    ∃ jobId, server.submission = .ok jobId ∧
      Outcome server s.maxConsecutiveFailures jobId r.poller
  /-- When the poll under way is answered and the task goes on to take its turns, more of them than
  what concerns canceling needs, then that result is taken next. -/
  takesNext : r.poller.disposed = false → r.poller.isPolling = true → ∀ more, Undisturbed more →
    r.poller.backlog + more.countP Event.isCancel + more.countP Event.isCancelReply <
      more.countP Event.isTurn →
    ∃ rest, r.takenResults server (.pollAnswered :: more) =
      (results.length + 1, server.status (results.length + 1)) :: rest
  /-- There are no more polls than periods have passed, so that their numbers do not outgrow the
  clock. -/
  paced : r.poller.polls * s.intervalMs.toNat ≤ r.now

/-- The answer to the poll under way comes, and its result is taken next. -/
theorem Tally.takes_next {n : Nat} (h : Tally server n r) (hd : r.poller.disposed = false)
    (hp : r.poller.isPolling = true) {more : List (Event ρ)} (hmore : Undisturbed more)
    (hlt : r.poller.backlog + more.countP Event.isCancel + more.countP Event.isCancelReply <
      more.countP Event.isTurn) :
    ∃ rest, r.takenResults server (.pollAnswered :: more) = (n + 1, server.status (n + 1)) :: rest := by
  have hpolls : r.poller.polls = n + 1 := by
    rcases h.polls with ⟨-, hidle⟩ | ⟨hpolls, -⟩
    · cases hp.symm.trans hidle
    · exact hpolls
  obtain ⟨hr, hsame, hd', hb⟩ := answered_of_isPolling h.aligned hp
  have ha := (aligned_step _ .pollAnswered h.aligned).1
  rw [← hb] at hlt
  obtain ⟨rest, htaken⟩ := takes_result ha (hd'.trans hd) hr hmore hlt
  refine ⟨rest, ?_⟩
  rw [takenResults, takenResult?_of_isPolling hr.isPolling, htaken, hsame, hpolls]
  rfl

/-- Of the numbers of polls on their own, whatever is asked of them, and in whatever order: those
that are accepted increase, and one is refused just when it is zero, or one that is as great was
accepted before.

Of a run, whatever the owner, the server and the task of a poller do, and in whatever order: it takes
the results of its polls in order. -/
theorem results_are_taken_once_in_order (s : PollSettings) (h : 0 < s.intervalMs)
    (server : Server) :
    (∀ requests : List Epochs.Request,
      (Epochs.accepted {} requests).Pairwise (· < ·) ∧
      ∀ epoch, (Epochs.after {} requests).accept? epoch = none ↔
        epoch = 0 ∨ ∃ a ∈ Epochs.accepted {} requests, epoch ≤ a) ∧
    ∃ p : Poller ρ, ofSettings s = .ok p ∧ ∀ es : List (Event ρ),
      TakesInOrder server s ((start p).after server es) ((start p).takenResults server es) := by
  refine ⟨fun requests => ⟨?_, fun epoch => ?_⟩, ?_⟩
  · exact (List.pairwise_cons.1 (Epochs.pairwise_accepted {} requests)).2
  · rw [Epochs.accept?_eq_none_iff, Epochs.le_applied_after_iff]
    exact or_congr_left Nat.le_zero
  obtain ⟨p, hp⟩ := ofSettings_of_pos h
  refine ⟨p, hp, fun es => ?_⟩
  obtain ⟨n, hresults, ht⟩ := tally_after server hp es
  obtain rfl : ((start p).takenResults server es).length = n := by simp [hresults]
  exact {
    issued := fun t htask => (ht.aligned.tracking htask).2.2.issued
    accepted := fun t htask hpoll => by
      obtain ⟨-, -, hi⟩ := ht.aligned.tracking htask
      exact (hi.idle hpoll).trans hi.issued.symm
    notRefused := fun t htask f hf => by
      obtain ⟨-, -, hi⟩ := ht.aligned.tracking htask
      obtain ⟨he, hnext, -⟩ := hi.busy f hf
      exact ⟨he.trans hi.issued.symm, hi.issued.trans hnext, Epochs.accept?_of_lt (by omega)⟩
    once := hresults
    noneLeftOut := ht.polls.imp_right fun h => ⟨h.1, h.2.imp_right And.left⟩
    taken := ht.taken_eq
    effect := fun hd hpolls =>
      (faithful_after server hp (undisturbed_of_not_disposed hd)).outcome_of_polled hpolls
    takesNext := fun hd hpoll _ hmore hlt => ht.takes_next hd hpoll hmore hlt
    paced := (paced_after server hp es).clock }

/-- Results of polls that come late and twice. -/
def outOfOrder : List Epochs.Request :=
  [.issue, .issue, .accept 2, .accept 1, .accept 2, .issue, .accept 3]

/-- The owner asks to cancel twice, with a poll under way, and the server has replied once. -/
def crowded : List (Event String) :=
  [.submit "scan", .turn, .submissionAnswered, .turn, .pass 1000, .turn, .cancel, .cancel, .turn,
    .cancelAnswered]

/-- Of four turns three are about canceling, as the owner asks once more in between. -/
def catchingUp : List (Event String) :=
  [.turn, .turn, .cancel, .turn, .turn]

/-- Old numbers are refused out of order; in a run the result of the first poll is taken after all
that concerns canceling. -/
theorem results_are_taken_once_in_order_crowded :
    (0 : UInt64) < ({} : PollSettings).intervalMs ∧
      Epochs.accepted {} outOfOrder = [2, 3] ∧ (Epochs.accepted {} outOfOrder).Pairwise (· < ·) ∧
      (Epochs.after {} outOfOrder).accept? 3 = none ∧
      ∃ p : Poller String, ofSettings {} = .ok p ∧
        let r := (start p).after reluctant crowded
        r.poller.disposed = false ∧ r.poller.isPolling = true ∧ Undisturbed catchingUp ∧
        r.poller.backlog + catchingUp.countP Event.isCancel +
          catchingUp.countP Event.isCancelReply < catchingUp.countP Event.isTurn ∧
        ∃ rest, (start p).takenResults reluctant (crowded ++ .pollAnswered :: catchingUp) =
          (1, reluctant.status 1) :: rest := by
  obtain ⟨hnumbers, p, hp, h⟩ :=
    results_are_taken_once_in_order (ρ := String) {} (by decide) reluctant
  have hmore : Undisturbed catchingUp := by decide
  obtain ⟨hincreasing, hrefused⟩ := hnumbers outOfOrder
  refine ⟨by decide, rfl, hincreasing, (hrefused 3).2 (.inr ⟨3, by decide, Nat.le_refl 3⟩), p, hp,
    ?_⟩
  have hlive : ((start p).after reluctant crowded).poller.disposed = false ∧
      ((start p).after reluctant crowded).poller.isPolling = true ∧
      ((start p).after reluctant crowded).poller.backlog + catchingUp.countP Event.isCancel +
        catchingUp.countP Event.isCancelReply < catchingUp.countP Event.isTurn ∧
      (start p).takenResults reluctant crowded = [] := by
    cases hp
    exact ⟨rfl, rfl, by decide, rfl⟩
  obtain ⟨hd, hpolling, hlt, hnone⟩ := hlive
  obtain ⟨rest, hrest⟩ := (h crowded).takesNext hd hpolling catchingUp hmore hlt
  rw [hnone] at hrest
  refine ⟨hd, hpolling, hmore, hlt, rest, ?_⟩
  rw [takenResults_append, hnone]
  exact hrest

end Run

end Poller

end BackendMonitor
