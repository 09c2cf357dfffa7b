import BackendMonitor.Proofs.Connection.Attempts
import BackendMonitor.Proofs.Counting
import BackendMonitor.Proofs.Watched

/-!
# State, retries and task of a connection

The state that observers see, the count of failures and the point that the task has come to are kept
apart, and are changed one after the other. They agree all the same:

* `Task.state`: the state that belongs to a point of the task;
* `Agrees`: what state, count, task and history have to do with each other, which every step keeps;
* `Run.StatesAgree`: how they agree, and `Run.states_agree`: so they do in every run.
-/

namespace BackendMonitor.Connection

/-! ## What observers are told -/

/-- The states that observers saw, newest first; the first one is that of a new connection. -/
def states (w : Watched ConnectionState) : List ConnectionState :=
  w.seen id .connecting

/-- Observers saw states of which each one differs from the one before and could follow it, and the
present one last. -/
def InOrder (w : Watched ConnectionState) : Prop :=
  w.InOrder id .connecting fun earlier later =>
    earlier ≠ later ∧ earlier.canBecome later = true

/-- A change of the state: it goes over to another one that may follow. -/
inductive Told (w : Watched ConnectionState) : Watched ConnectionState → Prop where
  | same : Told w w
  | published {s : ConnectionState} (hn : w.value ≠ s) (hc : w.value.canBecome s = true) :
      Told w (w.publish s)

theorem Told.inOrder {w w' : Watched ConnectionState} (h : Told w w') (hw : InOrder w) :
    InOrder w' := by
  cases h with
  | same => exact hw
  | published hn hc => exact hw.publish ⟨hn, hc⟩

/-- A socket that is opened makes the connection connected. -/
theorem onOpened_spec {c : Connection} (url : String) (hd : c.disposed = false)
    (hv : c.state.value = .connecting ∨ c.state.value = .reconnecting) :
    ∃ w, Told c.state w ∧ w.value = .connected ∧
      c.onOpened url =
        { c with
          retry := {}
          queue := []
          opened := c.opened + 1
          state := w
          task := .pumping url { number := c.opened + 1 } } := by
  refine ⟨_, .published ?_ ?_, rfl, ?_⟩
  · rcases hv with hv | hv <;> rw [hv] <;> decide
  · rcases hv with hv | hv <;> rw [hv] <;> decide
  · unfold onOpened
    rw [become_of_canBecome (by exact hd)]
    · rfl
    · rcases hv with hv | hv <;> rw [hv] <;> decide
    · rcases hv with hv | hv <;> rw [hv] <;> decide

/-- A failure makes the connection reconnecting, if it is not that already. -/
theorem onLost_spec {c : Connection} (now : Nat) (url : String) (hd : c.disposed = false)
    (hv : c.state.value ≠ .disconnected) :
    ∃ w, Told c.state w ∧ w.value = .reconnecting ∧
      c.onLost now url =
        { c with
          retry := c.retry.fail
          state := w
          task := .waiting url (now + c.policy.delay c.retry.attempt) } := by
  by_cases hr : c.state.value = .reconnecting
  · refine ⟨_, .same, hr, ?_⟩
    unfold onLost
    rw [become_self (by exact hr)]
    rfl
  · have hc : c.state.value.canBecome .reconnecting = true := by
      revert hv hr
      cases c.state.value <;> decide
    refine ⟨_, .published hr hc, rfl, ?_⟩
    unfold onLost
    rw [become_of_canBecome (by exact hd) (by exact hr) (by exact hc)]
    rfl

/-! ## The task, the state and the history -/

/-- Whether the task carries frames. -/
def Task.isPumping : Task → Bool
  | .pumping .. | .writing .. => true
  | _ => false

/-- Whether the task is ending, or has ended. -/
def Task.isLeaving : Task → Bool
  | .closing .. | .ended => true
  | _ => false

/-- The state that belongs to a point of the task, given whether an attempt had a result. -/
def Task.state (hasResult : Bool) (t : Task) : ConnectionState :=
  if t.isPumping then .connected else if hasResult then .reconnecting else .connecting

/-- Whether the task is where the last milestone has taken it. -/
def Task.isAt : Task → Option Milestone → Bool
  | .unstarted, none | .starting _, none => true
  | .opening _ _ none, some .attempted => true
  | .opening _ _ (some answer), some (.answered failed) => answer.isSome == failed
  | .pumping .., some .opened | .writing .., some .opened => true
  | .waiting .., some m => m.isFailure
  | .closing .., _ | .ended, _ => true
  | _, _ => false

/-- What state, count of failures, task and history of a connection have to do with each other. -/
structure Agrees (h : History) (c : Connection) : Prop where
  orderly : Orderly h
  isAt : c.task.isAt h.last? = true
  leaving : c.task.isLeaving = true → c.disposed = true
  state : c.disposed = false → c.state.value = c.task.state h.hasResult
  down : c.disposed = true → c.state.value = .disconnected
  retry : c.disposed = false → (c.retry.attempt = 0 ↔ c.state.value ≠ .reconnecting)
  ignored : c.ignored = []
  inOrder : InOrder c.state

/-- After a socket was open, or an attempt failed, there was a result. -/
theorem Orderly.hasResult {h : History} (ho : Orderly h) {m : Milestone} (hm : h.last? = some m)
    (hr : m = .opened ∨ m.isFailure = true) : h.hasResult = true := by
  cases h with
  | nil => cases hm
  | cons x h =>
    obtain rfl : x.2 = m := Option.some.inj hm
    cases hx : x.2.isResult with
    | true => exact List.any_eq_true.2 ⟨x, List.mem_cons_self, hx⟩
    | false =>
      -- A loss is no result, but the socket that was lost is.
      have hl : x.2 = .lost := by
        rcases hr with hr | hr
        · rw [hr] at hx; cases hx
        · revert hx hr; cases x.2 <;> simp [Milestone.isResult, Milestone.isFailure]
      have hf := ho.1
      rw [hl] at hf
      cases h with
      | nil => cases hf
      | cons y h =>
        have hy : y.2.isResult = true := by
          revert hf
          show Milestone.mayFollow (some y.2) .lost = true → _
          cases y.2 <;> simp [Milestone.mayFollow, Milestone.isResult]
        exact List.any_eq_true.2 ⟨y, List.mem_cons_of_mem _ List.mem_cons_self, hy⟩

section Last

variable {t : Task} {last : Option Milestone} {url : String} {n : Nat}

theorem Task.last_of_starting (h : t.isAt last = true) (ht : t = .starting url) : last = none := by
  subst ht
  cases last with
  | none => rfl
  | some m => cases h

theorem Task.last_of_opening (h : t.isAt last = true) (ht : t = .opening url n none) :
    last = some .attempted := by
  subst ht
  rcases last with _ | _ | _ | _ | _ | _ | _ <;> first | rfl | cases h

theorem Task.last_of_answered {answer : Option Failure} (h : t.isAt last = true)
    (ht : t = .opening url n (some answer)) : last = some (.answered answer.isSome) := by
  subst ht
  rcases last with _ | _ | failed | _ | _ | _ | _
  case some.answered => rw [show answer.isSome = failed by simpa [Task.isAt] using h]
  all_goals cases h

theorem Task.last_of_waiting (h : t.isAt last = true) (ht : t = .waiting url n) :
    ∃ m, last = some m ∧ m.isFailure = true := by
  subst ht
  cases last with
  | none => cases h
  | some m => exact ⟨m, rfl, h⟩

theorem Task.isAt_iff_of_isPumping (hp : t.isPumping = true) :
    t.isAt last = true ↔ last = some .opened := by
  cases t with
  | pumping => rcases last with _ | _ | _ | _ | _ | _ | _ <;> simp [Task.isAt]
  | writing => rcases last with _ | _ | _ | _ | _ | _ | _ <;> simp [Task.isAt]
  | _ => cases hp

theorem Task.isAt_of_isLeaving (hl : t.isLeaving = true) : t.isAt last = true := by
  cases t with
  | closing | ended => rfl
  | _ => cases hl

end Last

theorem Task.isLeaving_of_isPumping {t : Task} (hp : t.isPumping = true) : t.isLeaving = false := by
  cases t with
  | pumping | writing => rfl
  | _ => cases hp

/-! What a task carries on with is no milestone. -/

theorem Task.milestone?_of_isPumping {t t' : Task} (ht : t.isPumping = true)
    (ht' : t'.isPumping = true) : t.milestone? t' = none := by
  cases t with
  | pumping | writing =>
    cases t' with
    | pumping | writing => rfl
    | _ => cases ht'
  | _ => cases ht

theorem Task.milestone?_of_isLeaving {t : Task} (ht : t.isLeaving = true) (before : Task) :
    before.milestone? t = none := by
  cases t with
  | closing => rcases before with _ | _ | ⟨_, _, _ | _⟩ | _ | _ | _ | _ | _ <;> rfl
  | ended => exact before.milestone?_ended
  | _ => cases ht

/-! An event that arrives leaves the task where it is. -/

theorem Task.isPumping_receive (e : SocketEvent) (t : Task) :
    (Task.receive e t).isPumping = t.isPumping := by
  cases t <;> rfl

theorem Task.isLeaving_receive (e : SocketEvent) (t : Task) :
    (Task.receive e t).isLeaving = t.isLeaving := by
  cases t <;> rfl

theorem Task.isAt_receive (e : SocketEvent) (t : Task) (last : Option Milestone) :
    (Task.receive e t).isAt last = t.isAt last := by
  cases t with
  | pumping | writing => rcases last with _ | _ | _ | _ | _ | _ | _ <;> rfl
  | _ => rfl

/-! ## Steps -/

/-- What the task and the network leave alone as long as nothing fails and no socket is opened. -/
structure Kept (c c' : Connection) : Prop where
  state : c'.state = c.state
  disposed : c'.disposed = c.disposed
  retry : c'.retry = c.retry
  ignored : c'.ignored = c.ignored

/-- A step that only moves the task. -/
theorem Agrees.move {h h' : History} {c c' : Connection} (ha : Agrees h c) (hk : Kept c c')
    (ho : Orderly h') (hr : h'.hasResult = h.hasResult) (ht : c'.task.isAt h'.last? = true)
    (hp : c'.task.isPumping = c.task.isPumping)
    (hv : c'.task.isLeaving = true → c.task.isLeaving = true) : Agrees h' c' := by
  refine ⟨ho, ht, fun h => ?_, fun hd => ?_, fun hd => ?_, fun hd => ?_, ?_, ?_⟩
  · rw [hk.disposed]; exact ha.leaving (hv h)
  · rw [hk.disposed] at hd
    rw [hk.state, ha.state hd, Task.state, Task.state, hp, hr]
  · rw [hk.disposed] at hd
    rw [hk.state]; exact ha.down hd
  · rw [hk.disposed] at hd
    rw [hk.retry, hk.state]; exact ha.retry hd
  · rw [hk.ignored]; exact ha.ignored
  · rw [hk.state]; exact ha.inOrder

/-- A step while frames are carried. -/
theorem Agrees.pump {now : Nat} {h : History} {c c' : Connection} (ha : Agrees h c)
    (hk : Kept c c') (hp : c.task.isPumping = true) (hp' : c'.task.isPumping = true) :
    Agrees (h.note now c.task c'.task) c' := by
  rw [History.note_of_none (Task.milestone?_of_isPumping hp hp')]
  refine ha.move hk ha.orderly rfl ?_ (hp'.trans hp.symm) fun hv => ?_
  · exact (Task.isAt_iff_of_isPumping hp').2 ((Task.isAt_iff_of_isPumping hp).1 ha.isAt)
  · cases (Task.isLeaving_of_isPumping hp').symm.trans hv

/-- After the connection was torn down, the task only has to end. -/
theorem Agrees.leave {now : Nat} {h : History} {c c' : Connection} (ha : Agrees h c)
    (hd : c.disposed = true) (hk : Kept c c') (hl : c'.task.isLeaving = true) :
    Agrees (h.note now c.task c'.task) c' := by
  rw [History.note_of_none (Task.milestone?_of_isLeaving hl c.task)]
  have hd' : c'.disposed = true := hk.disposed.trans hd
  refine ⟨ha.orderly, Task.isAt_of_isLeaving hl, fun _ => hd', fun hn => ?_, fun _ => ?_,
    fun hn => ?_, ?_, ?_⟩
  · cases hd'.symm.trans hn
  · rw [hk.state]; exact ha.down hd
  · cases hd'.symm.trans hn
  · rw [hk.ignored]; exact ha.ignored
  · rw [hk.state]; exact ha.inOrder

theorem Agrees.ne_disconnected {h : History} {c : Connection} (ha : Agrees h c)
    (hd : c.disposed = false) : c.state.value ≠ .disconnected := by
  rw [ha.state hd, Task.state]
  cases c.task.isPumping <;> cases h.hasResult <;> decide

theorem Agrees.dispose {h : History} {c : Connection} (ha : Agrees h c) :
    Agrees h c.dispose := by
  unfold Connection.dispose
  cases hd : c.disposed with
  | true => exact ha
  | false =>
    have hn := ha.ne_disconnected hd
    have hc : c.state.value.canBecome .disconnected = true := by
      revert hn
      cases c.state.value <;> decide
    exact ⟨ha.orderly, ha.isAt, fun _ => rfl, fun h => (by cases h), fun _ => rfl,
      fun h => (by cases h), ha.ignored,
      (Told.published hn hc).inOrder ha.inOrder⟩

/-- A failure, or the loss of the socket. -/
theorem Agrees.lost {h : History} {c : Connection} (ha : Agrees h c) {now : Nat} {url : String}
    {m : Milestone} (hd : c.disposed = false) (hf : m.isFailure = true)
    (hm : Milestone.mayFollow h.last? m = true) :
    Agrees ((now, m) :: h) (c.onLost now url) := by
  obtain ⟨w, ht, hw, he⟩ := onLost_spec now url hd (ha.ne_disconnected hd)
  have ho : Orderly ((now, m) :: h) := ⟨hm, ha.orderly⟩
  rw [he]
  refine ⟨ho, hf, fun hl => (by cases hl), fun _ => ?_, fun hd' => ?_, fun _ => ?_, ha.ignored,
    ht.inOrder ha.inOrder⟩
  · rw [ho.hasResult rfl (.inr hf)]; exact hw
  · cases hd.symm.trans hd'
  · refine ⟨fun hz => ?_, fun hn => absurd hw hn⟩
    have hn := c.retry.toNat_fail
    rw [hz, show (0 : UInt32).toNat = 0 from rfl] at hn
    omega

theorem Agrees.opened {h : History} {c : Connection} (ha : Agrees h c) {now deadline : Nat}
    {url : String} (hd : c.disposed = false) (ht : c.task = .opening url deadline (some none)) :
    Agrees ((now, .opened) :: h) (c.onOpened url) := by
  have hl := Task.last_of_answered ha.isAt ht
  have hv : c.state.value = .connecting ∨ c.state.value = .reconnecting := by
    rw [ha.state hd, ht]
    cases h.hasResult with
    | true => exact .inr rfl
    | false => exact .inl rfl
  obtain ⟨w, ht, hw, he⟩ := onOpened_spec url hd hv
  rw [he]
  refine ⟨⟨by rw [hl]; rfl, ha.orderly⟩, rfl, fun hl => (by cases hl), fun _ => hw, fun hd' => ?_,
    fun _ => ?_, ha.ignored, ht.inOrder ha.inOrder⟩
  · cases hd.symm.trans hd'
  · simp [hw]

/-- The task makes an attempt. -/
theorem Agrees.attempt {h : History} {c : Connection} (ha : Agrees h c) {now : Nat} (url : String)
    (hm : Milestone.mayFollow h.last? .attempted = true) (hp : c.task.isPumping = false) :
    Agrees ((now, .attempted) :: h) (c.attempt now url) :=
  ha.move ⟨rfl, rfl, rfl, rfl⟩ ⟨hm, ha.orderly⟩ rfl rfl hp.symm fun hl => by cases hl

/-- A message is delivered to observers of messages. -/
theorem kept_deliver (payload : String) (c : Connection) : Kept c (c.deliver payload) := by
  unfold deliver
  simp only
  split <;> exact ⟨rfl, rfl, rfl, rfl⟩

/-- The milestone of a turn is noted, and all agrees again. -/
theorem Turn.agrees {now : Nat} {h : History} {c c' : Connection} (ht : Turn now c c')
    (ha : Agrees h c) : Agrees (h.note now c.task c'.task) c' := by
  have lost : ∀ url, (c.onLost now url).task =
    .waiting url (now + c.policy.delay c.retry.attempt) := fun _ => rfl
  cases ht with
  | stop hd hr hs => exact ha.leave hd ⟨rfl, rfl, rfl, rfl⟩ rfl
  | @start url hd ht =>
    rw [History.note_of_some (by rw [ht]; rfl)]
    exact ha.attempt url (by rw [Task.last_of_starting ha.isAt ht]; rfl) (by rw [ht]; rfl)
  | @again url next hd ht hn =>
    rw [History.note_of_some (by rw [ht]; rfl)]
    obtain ⟨m, hl, hf⟩ := Task.last_of_waiting ha.isAt ht
    exact ha.attempt url (by rw [hl, Milestone.mayFollow_attempted, hf]) (by rw [ht]; rfl)
  | @opened url deadline hd ht =>
    have hp : (c.onOpened url).task = .pumping url { number := c.opened + 1 } := rfl
    rw [History.note_of_some (by rw [ht, hp]; rfl)]
    exact ha.opened hd ht
  | @refused url deadline f hd ht =>
    rw [History.note_of_some (by rw [ht, lost]; rfl)]
    exact ha.lost hd rfl (by rw [Task.last_of_answered ha.isAt ht]; rfl)
  | @timedOut url deadline hd ht hn =>
    rw [History.note_of_some (by rw [ht, lost]; rfl)]
    exact ha.lost hd rfl (by rw [Task.last_of_opening ha.isAt ht]; rfl)
  | close hd ht => exact ha.leave hd ⟨rfl, rfl, rfl, rfl⟩ rfl
  | write hd ht hq => exact ha.pump ⟨rfl, rfl, rfl, rfl⟩ (by rw [ht]; rfl) rfl
  | @message url s payload inbox hd ht hq hi =>
    obtain ⟨hs, hd', hr, hg⟩ := kept_deliver payload c
    exact ha.pump ⟨hs, hd', hr, hg⟩ (by rw [ht]; rfl) rfl
  | error hd ht hq hi => exact ha.pump ⟨rfl, rfl, rfl, rfl⟩ (by rw [ht]; rfl) rfl
  | @lost url s inbox hd ht hq hi =>
    have hp : c.task.isPumping = true := by rw [ht]; rfl
    rw [History.note_of_some (by rw [ht, lost]; rfl)]
    exact ha.lost hd rfl (by rw [(Task.isAt_iff_of_isPumping hp).1 ha.isAt]; rfl)
  | written ht => exact ha.pump ⟨rfl, rfl, rfl, rfl⟩ (by rw [ht]; rfl) rfl
  | closed ht => exact ha.leave (ha.leaving (by rw [ht]; rfl)) ⟨rfl, rfl, rfl, rfl⟩ rfl

/-- An event of the socket changes nothing but its inbox. -/
theorem Agrees.receive {h : History} {c : Connection} (ha : Agrees h c) (now : Nat)
    (e : SocketEvent) :
    Agrees (h.note now c.task (Task.receive e c.task)) (c.proceed (Task.receive e c.task)) := by
  rw [History.note_of_none (Task.milestone?_receive e c.task)]
  refine ha.move ⟨rfl, rfl, rfl, rfl⟩ ha.orderly rfl ?_ (Task.isPumping_receive e c.task) ?_
  · exact (Task.isAt_receive e c.task _).trans ha.isAt
  · exact (Task.isLeaving_receive e c.task).symm.trans

theorem Agrees.notice {h : History} {c : Connection} (ha : Agrees h c) (now : Nat) (n : News) :
    Agrees (h.note now c.task (c.notice n).task) (c.notice n) := by
  unfold Connection.notice
  split
  · next failure url deadline ht =>
    rw [History.note_of_some (by rw [ht]; rfl)]
    have hl := Task.last_of_opening ha.isAt ht
    exact ha.move ⟨rfl, rfl, rfl, rfl⟩ ⟨by rw [hl]; rfl, ha.orderly⟩ rfl (beq_self_eq_true _)
      (by rw [ht]; rfl) fun hl => by cases hl
  · next url s finished ht => exact ha.pump ⟨rfl, rfl, rfl, rfl⟩ (by rw [ht]; rfl) rfl
  · next s finished ht =>
    exact ha.leave (ha.leaving (by rw [ht]; rfl)) ⟨rfl, rfl, rfl, rfl⟩ rfl
  · exact ha.receive now _
  · rw [History.note_self]
    exact ha

theorem Agrees.connect {h : History} {c : Connection} (ha : Agrees h c) (now : Nat)
    (url : String) : Agrees (h.note now c.task (c.connect url).task) (c.connect url) := by
  unfold Connection.connect
  split
  · rw [History.note_self]
    exact ha
  · split
    · next ht =>
      have hl := ha.isAt
      rw [ht] at hl
      rw [History.note_of_none (by rw [ht]; rfl)]
      refine ha.move ⟨rfl, rfl, rfl, rfl⟩ ha.orderly rfl ?_ (by rw [ht]; rfl) fun hv => by cases hv
      revert hl
      cases h.last? <;> exact id
    · rw [History.note_self]
      exact ha

theorem task_dispose (c : Connection) : c.dispose.task = c.task := by
  unfold dispose
  split <;> rfl

/-- Until a connection is torn down it has one of three states: no attempt had a result, or the task
carries frames, or one had and the task does not. -/
theorem Agrees.state_cases {h : History} {c : Connection} (ha : Agrees h c)
    (hd : c.disposed = false) :
    c.state.value = .connecting ∧ h.hasResult = false ∧ c.task.isPumping = false ∨
      c.state.value = .connected ∧ h.hasResult = true ∧ c.task.isPumping = true ∨
      c.state.value = .reconnecting ∧ h.hasResult = true ∧ c.task.isPumping = false := by
  have ho : c.task.isPumping = true → h.hasResult = true := fun hp =>
    ha.orderly.hasResult ((Task.isAt_iff_of_isPumping hp).1 ha.isAt) (.inl rfl)
  rw [ha.state hd, Task.state]
  revert ho
  cases c.task.isPumping <;> cases h.hasResult <;> simp

namespace Run

/-- Every step keeps state, count of failures, task and history together. -/
theorem agrees_step (r : Run) (e : Event) (ha : Agrees r.history r.connection) :
    Agrees (r.step e).history (r.step e).connection := by
  simp only [step]
  cases e with
  | connect url => exact ha.connect r.now url
  | send frame =>
    simp only [Event.act, Connection.send]
    split <;> rw [History.note_self]
    · exact ha
    · exact ha.move ⟨rfl, rfl, rfl, rfl⟩ ha.orderly rfl ha.isAt rfl id
  | dispose =>
    simp only [Event.act]
    rw [task_dispose, History.note_self]
    exact ha.dispose
  | drop =>
    have ht : r.connection.drop.task = r.connection.task := task_dispose r.connection
    simp only [Event.act]
    rw [ht, History.note_self]
    exact ha.dispose.move ⟨rfl, rfl, rfl, rfl⟩ ha.orderly rfl ha.dispose.isAt rfl id
  | news n => exact ha.notice r.now n
  | turn =>
    simp only [Event.act]
    cases ht : r.connection.turn r.now with
    | none =>
      rw [Option.getD_none, History.note_self]
      exact ha
    | some c => exact (turn_eq_some ht).agrees ha
  | pass ms =>
    simp only [Event.act]
    rw [History.note_self]
    exact ha

theorem agrees_start (policy : ReconnectPolicy) :
    Agrees (start policy).history (start policy).connection :=
  ⟨trivial, rfl, fun h => (by cases h), fun _ => rfl, fun h => (by cases h),
    fun _ => ⟨fun _ h => (by cases h), fun _ => rfl⟩, rfl, ⟨rfl, List.isChain_singleton _⟩⟩

theorem agrees_after (policy : ReconnectPolicy) (es : List Event) :
    Agrees ((start policy).after es).history ((start policy).after es).connection :=
  after_induction (fun _ r => Agrees r.history r.connection) (agrees_start policy)
    (fun _ e ha => agrees_step _ e ha) es

/-- No attempt is made before the last one failed or the socket that it opened was lost. -/
theorem attempts_le {r : Run} {es : List Event} (ho : Orderly r.history) (ha : Addressed es r) :
    r.connection.attempts.length ≤ r.history.failures + 1 := by
  have hl : r.history.attemptedAt.length = r.history.attempts := by
    unfold History.attemptedAt History.attempts
    generalize r.history = h
    induction h with
    | nil => rfl
    | cons m h ih =>
      rw [List.filterMap_cons, List.countP_cons]
      by_cases hm : m.2 = .attempted
      · simp [hm, ih]
      · simp [hm, ih]
  rw [← List.length_map (·.1), ha.noted, hl]
  exact ho.attempts_le

/-- What the state, the count of failures, the task and the history of a run have to do with each
other, where `es` has happened. -/
structure StatesAgree (es : List Event) (r : Run) : Prop where
  /-- Until the connection is torn down its state tells whether an attempt had a result and whether
  the task carries frames. -/
  connecting : r.connection.disposed = false →
    (r.connection.state.value = .connecting ↔ ∀ m ∈ r.history, m.2.isResult = false)
  connected : r.connection.disposed = false →
    (r.connection.state.value = .connected ↔ r.connection.task.isPumping = true)
  reconnecting : r.connection.disposed = false →
    (r.connection.state.value = .reconnecting ↔
      (∃ m ∈ r.history, m.2.isResult = true) ∧ r.connection.task.isPumping = false)
  /-- Until then it counts failures just while it is reconnecting. -/
  retry : r.connection.disposed = false → (r.connection.retry.attempt = 0 ↔
    r.connection.state.value = .connecting ∨ r.connection.state.value = .connected)
  disconnected : r.connection.state.value = .disconnected ↔ ∃ e ∈ es, e.isTeardown = true
  /-- Observers are told of states that differ and may follow one another. -/
  chain : (states r.connection.state).IsChain fun later earlier =>
    earlier ≠ later ∧ earlier.canBecome later = true
  head : (states r.connection.state).head? = some r.connection.state.value
  /-- The task never goes over to a state that must not follow. -/
  ignored : r.connection.ignored = []
  /-- There is one attempt or one open socket at most. -/
  orderly : Orderly r.history
  attemptedAt : r.connection.attempts.map (·.1) = r.history.attemptedAt
  attempts_le : r.connection.attempts.length ≤ r.history.failures + 1
  /-- Each attempt is made at the first address that was asked for. -/
  address : ∀ a ∈ r.connection.attempts, firstUrl es = some a.2

/-- Whatever the owner, the network and the task of a connection do, and in whatever order: its
state, its count of failures, its task and its history agree. -/
theorem states_agree (policy : ReconnectPolicy) (es : List Event) :
    StatesAgree es ((start policy).after es) := by
  have hg := agrees_after policy es
  have ha := addressed_after policy es
  generalize (start policy).after es = r at hg ha ⊢
  have hn : r.history.hasResult = false ↔ ∀ m ∈ r.history, m.2.isResult = false := by
    simp [History.hasResult]
  have hy : r.history.hasResult = true ↔ ∃ m ∈ r.history, m.2.isResult = true := List.any_eq_true
  refine {
    chain := hg.inOrder.chain
    head := hg.inOrder.head
    ignored := hg.ignored
    orderly := hg.orderly
    attemptedAt := ha.noted
    attempts_le := attempts_le hg.orderly ha
    address := ha.attempts
    connecting := fun hd => ?_, connected := fun hd => ?_, reconnecting := fun hd => ?_
    retry := fun hd => ?_, disconnected := ?_ }
  · rw [← hn]
    rcases hg.state_cases hd with ⟨hs, hr, -⟩ | ⟨hs, hr, -⟩ | ⟨hs, hr, -⟩ <;> simp [hs, hr]
  · rcases hg.state_cases hd with ⟨hs, -, hp⟩ | ⟨hs, -, hp⟩ | ⟨hs, -, hp⟩ <;> simp [hs, hp]
  · rw [← hy]
    rcases hg.state_cases hd with ⟨hs, hr, hp⟩ | ⟨hs, hr, hp⟩ | ⟨hs, hr, hp⟩ <;> simp [hs, hr, hp]
  · rw [hg.retry hd]
    rcases hg.state_cases hd with ⟨hs, -⟩ | ⟨hs, -⟩ | ⟨hs, -⟩ <;> simp [hs]
  · rw [← List.any_eq_true, ← ha.disposed]
    cases hd : r.connection.disposed with
    | true => exact ⟨fun _ => rfl, fun _ => hg.down hd⟩
    | false => exact ⟨fun h => absurd h (hg.ne_disconnected hd), fun h => (by cases h)⟩

/-- A socket is opened and lost, and the connection is torn down before the next attempt. -/
example :
    states ((start .standard).after
      [.connect "ws://localhost", .turn, .news (.answered none), .turn, .news (.event .closed),
        .turn, .dispose, .connect "ws://other", .turn]).connection.state =
      [.disconnected, .reconnecting, .connected, .connecting] := by
  decide

end Run

end BackendMonitor.Connection
