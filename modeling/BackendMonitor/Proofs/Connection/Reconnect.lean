import BackendMonitor.Proofs.Connection.Attempts
import BackendMonitor.Proofs.Connection.Backoff
import BackendMonitor.Proofs.Counting

/-!
# When a connection makes its attempts

In a run that is punctual, and until the connection is torn down, its history keeps to a schedule.

* `Lawful`: which histories a policy allows, instant by instant;
* `OnSchedule`: what the task knows of the history, which every step in time keeps;
* `Lawful.gap_le`: how far two attempts are apart without a socket in between;
* `Run.KeepsSchedule`: how the attempts keep to a schedule, and that the next milestone comes as soon
  as it is due; `Run.reconnects_on_schedule`: so it is in every such run.
-/

namespace BackendMonitor.Connection

/-! ## Histories -/

/-- The histories that a policy allows. An attempt is answered before its time is over, and what
the answer says follows at once; or else the attempt is over just when its time is. After a failure,
or the loss of a socket, the next attempt comes just when the delay is over that belongs to the
number of failures since a socket was opened last. -/
inductive Lawful (policy : ReconnectPolicy) : History → Prop where
  | nil : Lawful policy []
  | first (s : Nat) : Lawful policy [(s, .attempted)]
  | answered {s now : Nat} {l : History} (failed : Bool) (h : Lawful policy ((s, .attempted) :: l))
      (hs : s ≤ now) (hn : now ≤ s + policy.connectTimeoutMs.toNat) :
      Lawful policy ((now, .answered failed) :: (s, .attempted) :: l)
  | opened {s : Nat} {l : History} (h : Lawful policy ((s, .answered false) :: l)) :
      Lawful policy ((s, .opened) :: (s, .answered false) :: l)
  | refused {s : Nat} {l : History} (h : Lawful policy ((s, .answered true) :: l)) :
      Lawful policy ((s, .refused) :: (s, .answered true) :: l)
  | timedOut {s : Nat} {l : History} (h : Lawful policy ((s, .attempted) :: l)) :
      Lawful policy ((s + policy.connectTimeoutMs.toNat, .timedOut) :: (s, .attempted) :: l)
  | lost {s now : Nat} {l : History} (h : Lawful policy ((s, .opened) :: l)) (hs : s ≤ now) :
      Lawful policy ((now, .lost) :: (s, .opened) :: l)
  | again {s : Nat} {m : Milestone} {l : History} (h : Lawful policy ((s, m) :: l))
      (hm : m.isFailure = true) :
      Lawful policy
        ((s + policy.wait (History.outage ((s, m) :: l)), .attempted) :: (s, m) :: l)

section Lawful

variable {policy : ReconnectPolicy} {s t : Nat} {m : Milestone} {h l : History}

theorem Lawful.tail {x : Nat × Milestone} (h : Lawful policy (x :: l)) : Lawful policy l := by
  cases h with
  | first => exact .nil
  | _ => assumption

theorem Lawful.of_append (hl : Lawful policy (h ++ l)) : Lawful policy l := by
  induction h with
  | nil => exact hl
  | cons x h ih => exact ih hl.tail

theorem Lawful.of_answered {failed : Bool} (h : Lawful policy ((t, .answered failed) :: l)) :
    ∃ s l', l = (s, .attempted) :: l' ∧ t ≤ s + policy.connectTimeoutMs.toNat := by
  cases h with
  | answered failed h hs hn => exact ⟨_, _, rfl, hn⟩

theorem Lawful.of_refused (h : Lawful policy ((t, .refused) :: l)) :
    ∃ l', l = (t, .answered true) :: l' := by
  cases h with
  | refused => exact ⟨_, rfl⟩

theorem Lawful.of_timedOut (h : Lawful policy ((t, .timedOut) :: l)) :
    ∃ s l', l = (s, .attempted) :: l' ∧ t = s + policy.connectTimeoutMs.toNat := by
  cases h with
  | timedOut => exact ⟨_, _, rfl, rfl⟩

theorem Lawful.of_lost (h : Lawful policy ((t, .lost) :: l)) :
    ∃ s l', l = (s, .opened) :: l' := by
  cases h with
  | lost => exact ⟨_, _, rfl⟩

theorem Lawful.of_attempted (h : Lawful policy ((t, .attempted) :: l)) :
    l = [] ∨ ∃ s m l', l = (s, m) :: l' ∧ m.isFailure = true ∧ t = s + policy.wait l.outage := by
  cases h with
  | first => exact .inl rfl
  | again h hm => exact .inr ⟨_, _, _, rfl, hm, rfl⟩

variable {mid : History}

/-- An attempt that failed without a socket did so before its time was over. -/
theorem Lawful.failed_le (h : Lawful policy ((t, m) :: (mid ++ (s, .attempted) :: l)))
    (hm : m.isFailure = true) (hmid : ∀ x ∈ mid, x.2 ≠ .attempted ∧ x.2 ≠ .opened) :
    t ≤ s + policy.connectTimeoutMs.toNat := by
  have first : ∀ {s' l' mid}, (∀ x ∈ mid, x.2 ≠ Milestone.attempted) →
      mid ++ (s, .attempted) :: l = (s', .attempted) :: l' → s' = s := by
    intro s' l' mid hmid he
    rcases List.append_eq_cons_iff.1 he with ⟨-, he⟩ | ⟨mid', rfl, -⟩
    · cases he; rfl
    · exact absurd rfl (hmid _ List.mem_cons_self)
  cases m with
  | refused =>
    -- Before the refusal comes the answer, and before that the attempt.
    obtain ⟨l', he⟩ := h.of_refused
    rcases List.append_eq_cons_iff.1 he with ⟨-, he⟩ | ⟨mid', rfl, rfl⟩
    · cases he
    · obtain ⟨s', l', he, hn⟩ := h.tail.of_answered
      rw [first (fun x hx => (hmid x (List.mem_cons_of_mem _ hx)).1) he] at hn
      exact hn
  | timedOut =>
    obtain ⟨s', l', he, hn⟩ := h.of_timedOut
    rw [first (fun x hx => (hmid x hx).1) he] at hn
    exact Nat.le_of_eq hn
  | lost =>
    obtain ⟨s', l', he⟩ := h.of_lost
    rcases List.append_eq_cons_iff.1 he with ⟨-, he⟩ | ⟨mid', rfl, -⟩
    · cases he
    · exact absurd rfl (hmid _ List.mem_cons_self).2
  | attempted | answered | opened => cases hm

/-- Two attempts with no socket in between, one after the other, start no further apart than the
time of an attempt and the greatest delay. -/
theorem Lawful.gap_le (h : Lawful policy ((t, .attempted) :: (mid ++ (s, .attempted) :: l)))
    (hmid : ∀ x ∈ mid, x.2 ≠ .attempted ∧ x.2 ≠ .opened) :
    t ≤ s + policy.connectTimeoutMs.toNat + policy.maxMs.toNat := by
  rcases h.of_attempted with hn | ⟨e, m, l', he, hm, ht⟩
  · exact absurd hn (by simp)
  · have hw := policy.wait_le_max (History.outage (mid ++ (s, .attempted) :: l))
    have hl : e ≤ s + policy.connectTimeoutMs.toNat := by
      rcases List.append_eq_cons_iff.1 he with ⟨-, he⟩ | ⟨mid', rfl, rfl⟩
      · cases he; cases hm
      · exact h.tail.failed_le hm fun x hx => hmid x (List.mem_cons_of_mem _ hx)
    omega

end Lawful

/-! ## The task -/

/-- What the task knows of the history at the instant `now`. -/
def Task.InTime (policy : ReconnectPolicy) (now : Nat) (h : History) : Task → Prop
  | .unstarted | .starting _ => h = []
  | .opening _ deadline none =>
    ∃ s l, h = (s, .attempted) :: l ∧ s ≤ now ∧ now ≤ deadline ∧
      deadline = s + policy.connectTimeoutMs.toNat
  | .opening _ _ (some answer) => ∃ l, h = (now, .answered answer.isSome) :: l
  | .pumping .. | .writing .. => ∃ s l, h = (s, .opened) :: l ∧ s ≤ now
  | .waiting _ next =>
    ∃ s m l, h = (s, m) :: l ∧ m.isFailure = true ∧ now ≤ next ∧ next = s + policy.wait h.outage
  | .closing .. | .ended => False

/-- An event of the socket waits for the task in its inbox. -/
theorem Task.InTime.receive {policy : ReconnectPolicy} {now : Nat} {h : History} {t : Task}
    (e : SocketEvent) (ht : t.InTime policy now h) : (Task.receive e t).InTime policy now h := by
  cases t with
  | closing => exact ht.elim
  | _ => exact ht

/-- How a connection and the history of its task stand at the instant `now`, if all was in time and
the connection was not torn down. -/
structure OnSchedule (policy : ReconnectPolicy) (now : Nat) (h : History) (c : Connection) :
    Prop where
  policy_eq : c.policy = policy
  disposed : c.disposed = false
  lawful : Lawful policy h
  retry : c.retry.attempt.toNat = min h.outage 0xFFFFFFFF
  task : c.task.InTime policy now h

section OnSchedule

variable {policy : ReconnectPolicy} {now : Nat} {h : History} {c c' : Connection}

theorem OnSchedule.inTime {t : Task} (hs : OnSchedule policy now h c) (ht : c.task = t) :
    t.InTime policy now h :=
  ht ▸ hs.task

/-- A failure sets the next attempt. -/
theorem OnSchedule.lost {m : Milestone} (hs : OnSchedule policy now h c) (url : String)
    (hl : Lawful policy ((now, m) :: h)) (hm : m.isFailure = true) :
    OnSchedule policy now ((now, m) :: h) (c.onLost now url) := by
  have ho : History.outage ((now, m) :: h) = h.outage + 1 := by
    cases m with
    | refused | timedOut | lost => rfl
    | attempted | answered | opened => cases hm
  have hr : (c.onLost now url).retry = c.retry.fail := retry_become _ _
  have hw : c.policy.delay c.retry.attempt = policy.wait (h.outage + 1) := by
    rw [hs.policy_eq, policy.delay_eq_wait hs.retry]
  have hd : (c.onLost now url).disposed = false := (disposed_become _ _).trans hs.disposed
  refine ⟨(policy_become _ _).trans hs.policy_eq, hd, hl, ?_, ?_⟩
  · have hn := hs.retry
    rw [hr, Retry.toNat_fail, ho]
    omega
  · refine ⟨now, m, h, rfl, hm, Nat.le_add_right _ _, ?_⟩
    rw [ho, hw]

theorem OnSchedule.attempt (hs : OnSchedule policy now h c) (url : String)
    (hl : Lawful policy ((now, .attempted) :: h)) :
    OnSchedule policy now ((now, .attempted) :: h) (c.attempt now url) :=
  ⟨hs.policy_eq, hs.disposed, hl, hs.retry, now, h, rfl, Nat.le_refl _, Nat.le_add_right _ _,
    by rw [hs.policy_eq]⟩

/-- A step that comes to no milestone leaves the schedule alone. -/
theorem OnSchedule.stay {t : Task} (hs : OnSchedule policy now h c) (ht : c.task = t)
    (hm : t.milestone? c'.task = none) (hp : c'.policy = c.policy)
    (hd : c'.disposed = c.disposed) (hr : c'.retry = c.retry)
    (hi : t.InTime policy now h → c'.task.InTime policy now h) :
    OnSchedule policy now (h.note now c.task c'.task) c' := by
  rw [ht, History.note_of_none hm]
  exact ⟨hp.trans hs.policy_eq, hd.trans hs.disposed, hs.lawful, by rw [hr]; exact hs.retry,
    hi (hs.inTime ht)⟩

/-- A turn in time keeps the schedule. -/
theorem Turn.onSchedule (ht : Turn now c c') (hs : OnSchedule policy now h c) :
    OnSchedule policy now (h.note now c.task c'.task) c' := by
  have lost : ∀ url, (c.onLost now url).task =
    .waiting url (now + c.policy.delay c.retry.attempt) := fun _ => rfl
  have hd' := hs.disposed
  cases ht with
  | stop hd => rw [hd'] at hd; cases hd
  | close hd => rw [hd'] at hd; cases hd
  | @start url hd ht =>
    rw [History.note_of_some (by rw [ht]; rfl)]
    obtain rfl : h = [] := hs.inTime ht
    exact hs.attempt url (.first now)
  | @again url next hd ht hn =>
    rw [History.note_of_some (by rw [ht]; rfl)]
    obtain ⟨s, m, l, rfl, hm, hle, he⟩ := hs.inTime ht
    obtain rfl : now = s + policy.wait (History.outage ((s, m) :: l)) := by omega
    exact hs.attempt url (.again hs.lawful hm)
  | @opened url deadline hd ht =>
    have hp : (c.onOpened url).task = .pumping url { number := c.opened + 1 } := rfl
    have hr : (c.onOpened url).retry = c.retry.reset := retry_become _ _
    rw [History.note_of_some (by rw [ht, hp]; rfl)]
    obtain ⟨l, rfl⟩ := hs.inTime ht
    have hd : (c.onOpened url).disposed = false := (disposed_become _ _).trans hd
    refine ⟨(policy_become _ _).trans hs.policy_eq, hd, .opened hs.lawful, ?_, _, _, rfl,
      Nat.le_refl _⟩
    rw [hr]
    rfl
  | @refused url deadline f hd ht =>
    rw [History.note_of_some (by rw [ht, lost]; rfl)]
    obtain ⟨l, rfl⟩ := hs.inTime ht
    exact hs.lost url (.refused hs.lawful) rfl
  | @timedOut url deadline hd ht hn =>
    rw [History.note_of_some (by rw [ht, lost]; rfl)]
    obtain ⟨s, l, rfl, -, hle, he⟩ := hs.inTime ht
    obtain rfl : now = s + policy.connectTimeoutMs.toNat := by omega
    exact hs.lost url (.timedOut hs.lawful) rfl
  | @lost url s inbox hd ht =>
    rw [History.note_of_some (by rw [ht, lost]; rfl)]
    obtain ⟨s, l, rfl, hn⟩ := hs.inTime ht
    exact hs.lost url (.lost hs.lawful hn) rfl
  | @message url s payload inbox hd ht =>
    have hf : (c.deliver payload).policy = c.policy ∧ (c.deliver payload).retry = c.retry := by
      unfold deliver
      simp only
      split <;> exact ⟨rfl, rfl⟩
    exact hs.stay ht rfl hf.1 (disposed_deliver _ _) hf.2 fun hi => hi
  | write hd ht | error hd ht => exact hs.stay ht rfl rfl rfl rfl fun hi => hi
  | written ht => exact hs.stay ht rfl rfl rfl rfl fun hi => hi
  | closed ht => exact (hs.inTime ht).elim

/-- News in time keep the schedule. -/
theorem OnSchedule.notice (hs : OnSchedule policy now h c) (n : News) :
    OnSchedule policy now (h.note now c.task (c.notice n).task) (c.notice n) := by
  unfold Connection.notice
  split
  · next failure url deadline ht =>
    rw [History.note_of_some (by rw [ht]; rfl)]
    obtain ⟨s, l, rfl, hn, hle, he⟩ := hs.inTime ht
    exact ⟨hs.policy_eq, hs.disposed, .answered _ hs.lawful hn (he ▸ hle), hs.retry, _, rfl⟩
  · next ht => exact hs.stay ht rfl rfl rfl rfl fun hi => hi
  · next ht => exact (hs.inTime ht).elim
  · exact hs.stay rfl (Task.milestone?_receive _ _) rfl rfl rfl (Task.InTime.receive _)
  · rw [History.note_self]
    exact hs

theorem OnSchedule.connect (hs : OnSchedule policy now h c) (url : String) :
    OnSchedule policy now (h.note now c.task (c.connect url).task) (c.connect url) := by
  unfold Connection.connect
  split
  · rw [History.note_self]
    exact hs
  · split
    · next ht => exact hs.stay ht rfl rfl rfl rfl fun hi => hi
    · rw [History.note_self]
      exact hs

/-- Time that passes in time keeps the schedule. -/
theorem OnSchedule.pass (hs : OnSchedule policy now h c) {ms : Nat} (hn : c.turn now = none)
    (hd : ∀ due ∈ c.due?, now + ms ≤ due) : OnSchedule policy (now + ms) h c := by
  refine ⟨hs.policy_eq, hs.disposed, hs.lawful, hs.retry, ?_⟩
  cases ht : c.task with
  | unstarted | starting => exact hs.inTime ht
  | opening url deadline answer =>
    cases answer with
    | none =>
      obtain ⟨s, l, hl, hs', -, he⟩ := hs.inTime ht
      exact ⟨s, l, hl, by omega, hd _ (by rw [due?, ht]; rfl), he⟩
    | some answer =>
      -- An answer is taken at once.
      rw [turn, ht] at hn
      simp only [hs.disposed] at hn
      cases answer <;> cases hn
  | pumping | writing =>
    obtain ⟨s, l, hl, hs'⟩ := hs.inTime ht
    exact ⟨s, l, hl, by omega⟩
  | waiting url next =>
    obtain ⟨s, m, l, hl, hm, -, he⟩ := hs.inTime ht
    exact ⟨s, m, l, hl, hm, hd _ (by rw [due?, ht]; rfl), he⟩
  | closing | ended => exact (hs.inTime ht).elim

/-! The last milestone tells where the task is. -/

theorem OnSchedule.opening {s : Nat} {l : History} (hs : OnSchedule policy now h c)
    (hh : h = (s, .attempted) :: l) :
    ∃ url, c.task = .opening url (s + policy.connectTimeoutMs.toNat) none ∧
      now ≤ s + policy.connectTimeoutMs.toNat := by
  subst hh
  cases ht : c.task with
  | unstarted | starting => cases hs.inTime ht
  | opening url deadline answer =>
    cases answer with
    | none =>
      obtain ⟨s', l', he, -, hn, rfl⟩ := hs.inTime ht
      cases he
      exact ⟨url, rfl, hn⟩
    | some answer => obtain ⟨l', he⟩ := hs.inTime ht; cases he
  | pumping | writing => obtain ⟨s', l', he, -⟩ := hs.inTime ht; cases he
  | waiting => obtain ⟨s', m, l', he, hm, -⟩ := hs.inTime ht; cases he; cases hm
  | closing | ended => exact (hs.inTime ht).elim

theorem OnSchedule.answered {s : Nat} {failed : Bool} {l : History}
    (hs : OnSchedule policy now h c) (hh : h = (s, .answered failed) :: l) :
    now = s ∧ ∃ url deadline answer, c.task = .opening url deadline (some answer) ∧
      answer.isSome = failed := by
  subst hh
  cases ht : c.task with
  | unstarted | starting => cases hs.inTime ht
  | opening url deadline answer =>
    cases answer with
    | none => obtain ⟨s', l', he, -⟩ := hs.inTime ht; cases he
    | some answer =>
      obtain ⟨l', he⟩ := hs.inTime ht
      cases he
      exact ⟨rfl, url, deadline, answer, rfl, rfl⟩
  | pumping | writing => obtain ⟨s', l', he, -⟩ := hs.inTime ht; cases he
  | waiting => obtain ⟨s', m, l', he, hm, -⟩ := hs.inTime ht; cases he; cases hm
  | closing | ended => exact (hs.inTime ht).elim

theorem OnSchedule.waiting {s : Nat} {m : Milestone} {l : History}
    (hs : OnSchedule policy now h c) (hh : h = (s, m) :: l) (hm : m.isFailure = true) :
    ∃ url, c.task = .waiting url (s + policy.wait h.outage) ∧ now ≤ s + policy.wait h.outage := by
  cases ht : c.task with
  | unstarted | starting => rw [hh] at hs; cases hs.inTime ht
  | opening url deadline answer =>
    cases answer with
    | none => obtain ⟨s', l', he, -⟩ := hs.inTime ht; cases hh.symm.trans he; cases hm
    | some answer => obtain ⟨l', he⟩ := hs.inTime ht; cases hh.symm.trans he; cases hm
  | pumping | writing => obtain ⟨s', l', he, -⟩ := hs.inTime ht; cases hh.symm.trans he; cases hm
  | waiting url next =>
    obtain ⟨s', m', l', he, -, hn, rfl⟩ := hs.inTime ht
    cases hh.symm.trans he
    exact ⟨url, rfl, hn⟩
  | closing | ended => exact (hs.inTime ht).elim

end OnSchedule

namespace Run

theorem onSchedule_step {policy : ReconnectPolicy} (r : Run) (e : Event)
    (he : e.isTeardown = false) (hp : r.isPunctual e = true)
    (hs : OnSchedule policy r.now r.history r.connection) :
    OnSchedule policy (r.step e).now (r.step e).history (r.step e).connection := by
  simp only [step]
  cases e with
  | connect url => exact hs.connect url
  | news n => exact hs.notice n
  | send frame =>
    simp only [Event.act, Connection.send]
    split
    · rw [History.note_self]
      exact hs
    · exact hs.stay rfl (Task.milestone?_self _) rfl rfl rfl id
  | turn =>
    simp only [Event.act]
    cases ht : r.connection.turn r.now with
    | none =>
      rw [Option.getD_none, History.note_self]
      exact hs
    | some c => exact (turn_eq_some ht).onSchedule hs
  | pass ms =>
    obtain ⟨hn, hd⟩ := (Bool.and_eq_true _ _).mp hp
    simp only [Event.act]
    rw [History.note_self]
    refine hs.pass (Option.isNone_iff_eq_none.1 hn) fun due hdue => ?_
    rw [Option.all_eq_true] at hd
    exact of_decide_eq_true (hd due hdue)
  | dispose | drop => cases he

theorem onSchedule_after (policy : ReconnectPolicy) {es : List Event} (hu : Undisturbed es)
    (hp : (start policy).punctual es = true) :
    OnSchedule policy ((start policy).after es).now ((start policy).after es).history
      ((start policy).after es).connection :=
  after_induction_of_punctual (fun r => OnSchedule policy r.now r.history r.connection)
    onSchedule_step hu hp ⟨rfl, rfl, .nil, rfl, rfl⟩

theorem step_pass (r : Run) (ms : Nat) :
    r.step (.pass ms) = { r with now := r.now + ms } := by
  simp only [step, Event.act, Event.duration, History.note_self]

theorem history_turn {r : Run} {c : Connection} {m : Milestone}
    (ht : r.connection.turn r.now = some c)
    (hm : r.connection.task.milestone? c.task = some m) :
    (r.step .turn).history = (r.now, m) :: r.history := by
  simp only [step, Event.act, ht, Option.getD_some]
  exact History.note_of_some hm _

section Progress

variable {policy : ReconnectPolicy} {r : Run}

/-- An attempt whose time is over has failed. -/
theorem times_out {s : Nat} {l : History} (hs : OnSchedule policy r.now r.history r.connection)
    (hh : r.history = (s, .attempted) :: l) :
    r.now ≤ s + policy.connectTimeoutMs.toNat ∧
      (r.after [.pass (s + policy.connectTimeoutMs.toNat - r.now), .turn]).history =
        (s + policy.connectTimeoutMs.toNat, .timedOut) :: r.history := by
  obtain ⟨url, ht, hn⟩ := hs.opening hh
  refine ⟨hn, ?_⟩
  have he : r.now + (s + policy.connectTimeoutMs.toNat - r.now) =
      s + policy.connectTimeoutMs.toNat := by omega
  have hto : r.connection.turn (s + policy.connectTimeoutMs.toNat) =
      some (r.connection.onLost (s + policy.connectTimeoutMs.toNat) url) := by
    simp only [turn, ht, hs.disposed]
    rw [if_neg (by decide), if_pos (Nat.le_refl _)]
  rw [after_cons, step_pass, he]
  exact history_turn hto (by rw [ht]; rfl)

/-- An answer is taken at once. -/
theorem takes_answer {s : Nat} {failed : Bool} {l : History}
    (hs : OnSchedule policy r.now r.history r.connection)
    (hh : r.history = (s, .answered failed) :: l) :
    r.now = s ∧ (r.after [.turn]).history =
      (s, if failed then .refused else .opened) :: r.history := by
  obtain ⟨rfl, url, deadline, answer, ht, rfl⟩ := hs.answered hh
  refine ⟨rfl, ?_⟩
  cases answer with
  | none =>
    have hto : r.connection.turn r.now = some (r.connection.onOpened url) := by
      simp only [turn, ht, hs.disposed]
      rw [if_neg (by decide)]
    exact history_turn hto (by rw [ht]; rfl)
  | some f =>
    have hto : r.connection.turn r.now = some (r.connection.onLost r.now url) := by
      simp only [turn, ht, hs.disposed]
      rw [if_neg (by decide)]
    exact history_turn hto (by rw [ht]; rfl)

/-- After a failure the next attempt is made when its delay is over. -/
theorem tries_again {s : Nat} {m : Milestone} {l : History}
    (hs : OnSchedule policy r.now r.history r.connection) (hh : r.history = (s, m) :: l)
    (hm : m.isFailure = true) :
    r.now ≤ s + policy.wait r.history.outage ∧
      (r.after [.pass (s + policy.wait r.history.outage - r.now), .turn]).history =
        (s + policy.wait r.history.outage, .attempted) :: r.history := by
  obtain ⟨url, ht, hn⟩ := hs.waiting hh hm
  refine ⟨hn, ?_⟩
  have he : r.now + (s + policy.wait r.history.outage - r.now) =
      s + policy.wait r.history.outage := by omega
  have hto : r.connection.turn (s + policy.wait r.history.outage) =
      some (r.connection.attempt (s + policy.wait r.history.outage) url) := by
    simp only [turn, ht, hs.disposed]
    rw [if_neg (by decide), if_pos (Nat.le_refl _)]
  rw [after_cons, step_pass, he]
  exact history_turn hto (by rw [ht]; rfl)

end Progress

/-- How the attempts in a run keep to the schedule of the policy. -/
structure KeepsSchedule (policy : ReconnectPolicy) (r : Run) : Prop where
  lawful : Lawful policy r.history
  attempts : r.connection.attempts.map (·.1) = r.history.attemptedAt
  /-- The connection counts failures since a socket was opened last, as far as 32 bits go. -/
  retry : r.connection.retry.attempt.toNat = min r.history.outage 0xFFFFFFFF
  /-- An attempt without an answer has failed just when its time is over. -/
  timesOut : ∀ s l, r.history = (s, .attempted) :: l →
    let timeout := policy.connectTimeoutMs.toNat
    r.now ≤ s + timeout ∧ (r.after [.pass (s + timeout - r.now), .turn]).history =
      (s + timeout, .timedOut) :: r.history
  answered : ∀ s failed l, r.history = (s, .answered failed) :: l →
    r.now = s ∧ (r.after [.turn]).history =
      (s, if failed then .refused else .opened) :: r.history
  /-- After each failure or loss there is one new attempt, just when the delay is over that belongs
  to the number of failures. -/
  again : ∀ s m l, r.history = (s, m) :: l → m.isFailure = true →
    let wait := policy.wait r.history.outage
    r.now ≤ s + wait ∧ (r.after [.pass (s + wait - r.now), .turn]).history =
      (s + wait, .attempted) :: r.history
  /-- Two attempts with no socket in between are never further apart than the time of an attempt and
  the maximum. -/
  gap : ∀ newer t mid s older,
    r.history = newer ++ (t, .attempted) :: (mid ++ (s, .attempted) :: older) →
      (∀ x ∈ mid, x.2 ≠ .attempted ∧ x.2 ≠ .opened) →
      t ≤ s + policy.connectTimeoutMs.toNat + policy.maxMs.toNat

/-- In a punctual run, and until the connection is torn down, its attempts keep to the schedule of
the policy; and its delays start at the base, never shrink, and stay within the maximum. -/
theorem reconnects_on_schedule (policy : ReconnectPolicy) (es : List Event)
    (hu : Undisturbed es) (hp : (start policy).punctual es = true) :
    KeepsSchedule policy ((start policy).after es) ∧
    policy.wait 1 = policy.baseMs.toNat ∧
    (∀ j k, j ≤ k → policy.wait j ≤ policy.wait k) ∧
    ∀ k, policy.baseMs.toNat ≤ policy.wait k ∧ policy.wait k ≤ policy.maxMs.toNat := by
  have hs := onSchedule_after policy hu hp
  refine ⟨?_, policy.wait_one, fun j k h => policy.wait_mono h,
    fun k => ⟨policy.base_le_wait k, policy.wait_le_max k⟩⟩
  exact {
    lawful := hs.lawful
    attempts := (addressed_after policy es).noted
    retry := hs.retry
    timesOut := fun s l hh => times_out hs hh
    answered := fun s failed l hh => takes_answer hs hh
    again := fun s m l hh hm => tries_again hs hh hm
    gap := fun newer t mid s older hh hmid => by
      have hl := hs.lawful
      rw [hh] at hl
      exact hl.of_append.gap_le hmid }

/-- A connection whose first attempt is not answered, whose second one is refused, and whose third
one opens a socket that is lost later. -/
def threeAttempts : List Event :=
  [.connect "ws://localhost", .turn, .pass 50, .turn, .pass 100, .turn, .pass 20,
    .news (.answered (some ⟨.webSocket, "refused"⟩)), .turn, .pass 200, .turn,
    .news (.answered none), .turn, .pass 5, .news (.event .closed), .turn, .pass 100, .turn]

/-- With delays from 100 to 300 and 50 for each attempt, the delays are 100, 200, and 100 again. -/
theorem reconnects_on_schedule_threeAttempts :
    Undisturbed threeAttempts ∧ (start (.ofDelays 100 300 50)).punctual threeAttempts = true ∧
      let r := (start (.ofDelays 100 300 50)).after threeAttempts
      Lawful (.ofDelays 100 300 50) r.history ∧
        r.history =
          [(475, .attempted), (375, .lost), (370, .opened), (370, .answered false),
            (370, .attempted), (170, .refused), (170, .answered true), (150, .attempted),
            (50, .timedOut), (0, .attempted)] ∧
        r.connection.attempts.map (·.1) = [475, 370, 150, 0] := by
  have hu : Undisturbed threeAttempts := by decide
  have hp : (start (.ofDelays 100 300 50)).punctual threeAttempts = true := by decide
  have h := (reconnects_on_schedule (.ofDelays 100 300 50) threeAttempts hu hp).1
  exact ⟨hu, hp, h.lawful, by decide, h.attempts.trans (by decide)⟩

end Run

end BackendMonitor.Connection
