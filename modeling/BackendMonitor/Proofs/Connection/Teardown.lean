import BackendMonitor.Proofs.Connection.Frames

/-!
# The end of a connection

A connection that was torn down is disconnected, and its task only goes on until it has let go of
the socket that it may hold. What the owner asks is refused, and news from the network reach nobody.

* `Course`: the way of the task from the point where it was, with the calls that it makes: one to
  close the socket, if there is one, and no other;
* `Over`: what comes of a connection that is torn down, which every later step keeps;
* `Run.progress_after`: the task comes on with its way out whenever it gets what it waits for there,
  which is one thing at each point (`exits`);
* `Run.StaysDisconnected`: what becomes of a run that is torn down, and `Run.stays_disconnected`: so
  it does in every run.
-/

namespace BackendMonitor.Connection

/-! ## Points of the task -/

namespace Task

/-- The point that a task has come to, without the news that have reached it there. -/
def point : Task → Task
  | .opening url deadline _ => .opening url deadline none
  | .pumping url s => .pumping url { number := s.number }
  | .writing url s _ => .writing url { number := s.number } false
  | .closing s _ => .closing { number := s.number } false
  | t => t

variable {t t' : Task} {url : String} {s : OpenSocket}

theorem point_receive (e : SocketEvent) (t : Task) : (receive e t).point = t.point := by
  cases t <;> rfl

theorem isRunning_of_point (h : t.point = t'.point) : t.isRunning = t'.isRunning := by
  have hp (t : Task) : t.isRunning = t.point.isRunning := by cases t <;> rfl
  rw [hp, h, ← hp]

theorem isPumping_of_point (h : t.point = t'.point) : t.isPumping = t'.isPumping := by
  have hp (t : Task) : t.isPumping = t.point.isPumping := by cases t <;> rfl
  rw [hp, h, ← hp]

theorem number_of_point (h : t.point = t'.point) :
    t.socket?.map (·.number) = t'.socket?.map (·.number) := by
  have hp (t : Task) : t.socket?.map (·.number) = t.point.socket?.map (·.number) := by
    cases t <;> rfl
  rw [hp, h, ← hp]

theorem eq_pumping_of_point (h : t.point = .pumping url { number := s.number }) :
    ∃ s', t = .pumping url s' ∧ s'.number = s.number := by
  cases t with
  | pumping url' s' => simp_all [point]
  | _ => cases h

theorem eq_closing_of_point (h : t.point = .closing { number := s.number } false) :
    ∃ s' finished, t = .closing s' finished ∧ s'.number = s.number := by
  cases t with
  | closing s' finished => simp_all [point]
  | _ => cases h

theorem eq_ended_of_point (h : t.point = .ended) : t = .ended := by
  cases t with
  | ended => rfl
  | _ => cases h

/-- How far a task has come on its way out: the write that may be under way is over, the socket is
let go of, it is closed, and the task has ended. -/
def progress : Task → Nat
  | .writing _ _ false => 0
  | .writing _ _ true => 1
  | .pumping .. => 2
  | .closing _ false => 3
  | .closing _ true | .starting _ | .opening .. | .waiting .. => 4
  | .unstarted | .ended => 5

theorem progress_receive (e : SocketEvent) (t : Task) : (receive e t).progress = t.progress := by
  rcases t with _ | _ | _ | _ | ⟨_, _, _ | _⟩ | _ | ⟨_, _ | _⟩ | _ <;> rfl

theorem progress_lt_of_isPumping (h : t.isPumping = true) : t.progress < 3 := by
  rcases t with _ | _ | _ | _ | ⟨_, _, _ | _⟩ | _ | ⟨_, _ | _⟩ | _ <;>
    simp_all [progress, isPumping]

theorem not_running_of_progress (h : 5 ≤ t.progress) : t.isRunning = false := by
  rcases t with _ | _ | _ | _ | ⟨_, _, _ | _⟩ | _ | ⟨_, _ | _⟩ | _ <;>
    simp_all [progress, isRunning]

theorem progress_of_no_socket (h : t.socket? = none) : 4 ≤ t.progress := by
  rcases t with _ | _ | _ | _ | ⟨_, _, _ | _⟩ | _ | ⟨_, _ | _⟩ | _ <;>
    simp_all [progress, socket?]

theorem isRunning_of_isPumping (h : t.isPumping = true) : t.isRunning = true := by
  cases t with
  | pumping | writing => rfl
  | _ => cases h

end Task

/-! ## The owner, the network and the task -/

section Disposed

variable {c : Connection}

theorem connect_of_disposed (hd : c.disposed = true) (url : String) : c.connect url = c :=
  if_pos hd

theorem send_of_disposed (hd : c.disposed = true) (frame : String) :
    c.send frame = (c, false) := by
  unfold send
  rw [if_pos (by simp [hd])]

theorem dispose_of_disposed (hd : c.disposed = true) : c.dispose = c :=
  if_pos hd

theorem drop_of_disposed (hd : c.disposed = true) : c.drop = { c with held := false } := by
  unfold drop
  rw [dispose_of_disposed hd]

/-- What a turn does: without a socket the task ends, and a socket is closed first, once the write
that may be under way is over. -/
theorem turn_of_disposed (hd : c.disposed = true) (now : Nat) :
    c.turn now =
      match c.task with
      | .unstarted | .ended => none
      | .starting _ | .opening .. | .waiting .. => some (c.proceed .ended)
      | .pumping _ s => some (c.close now s)
      | .writing url s finished => if finished then some (c.proceed (.pumping url s)) else none
      | .closing _ finished => if finished then some (c.proceed .ended) else none := by
  unfold turn
  cases c.task <;> simp [hd]

/-- News change nothing but what has reached the task. -/
theorem notice_eq (n : News) (c : Connection) :
    ∃ task : Task, task.point = c.task.point ∧ c.notice n = { c with task := task } := by
  unfold notice
  split
  · next ht => exact ⟨_, by rw [ht]; rfl, rfl⟩
  · next ht => exact ⟨_, by rw [ht]; rfl, rfl⟩
  · next ht => exact ⟨_, by rw [ht]; rfl, rfl⟩
  · exact ⟨_, Task.point_receive _ _, rfl⟩
  · exact ⟨_, rfl, rfl⟩

/-- Besides turns and news nothing has an effect. -/
theorem act_cases (hd : c.disposed = true) (now : Nat) (e : Event) :
    e = .turn ∨ (∃ n, e = .news n) ∨ ∃ held, e.act now c = { c with held := held } := by
  cases e with
  | connect url => exact .inr (.inr ⟨_, connect_of_disposed hd url⟩)
  | send frame => exact .inr (.inr ⟨_, congrArg Prod.fst (send_of_disposed hd frame)⟩)
  | dispose => exact .inr (.inr ⟨_, dispose_of_disposed hd⟩)
  | drop => exact .inr (.inr ⟨_, drop_of_disposed hd⟩)
  | news n => exact .inr (.inl ⟨n, rfl⟩)
  | turn => exact .inl rfl
  | pass ms => exact .inr (.inr ⟨_, rfl⟩)

/-- Whatever happens but a turn leaves the task at its point. -/
theorem act_of_disposed (hd : c.disposed = true) (now : Nat) {e : Event} (he : e ≠ .turn) :
    ∃ held, ∃ task : Task, task.point = c.task.point ∧
      e.act now c = { c with held := held, task := task } := by
  rcases act_cases hd now e with rfl | ⟨n, rfl⟩ | ⟨held, ha⟩
  · exact absurd rfl he
  · obtain ⟨task, hp, hn⟩ := notice_eq n c
    exact ⟨_, task, hp, hn⟩
  · exact ⟨held, _, rfl, ha⟩

end Disposed

theorem act_of_teardown (now : Nat) (c : Connection) {e : Event} (he : e.isTeardown = true) :
    ∃ held, e.act now c =
      { c with disposed := true, state := c.dispose.state, held := held } := by
  have hd : c.dispose = { c with disposed := true, state := c.dispose.state } := by
    unfold dispose
    split
    · next hd => rw [← hd]
    · rfl
  cases e with
  | dispose => exact ⟨_, hd⟩
  | drop =>
    refine ⟨false, ?_⟩
    show { c.dispose with held := false } = _
    rw [hd]
  | _ => cases he

/-! ## The way out -/

/-- Where the task of the connection `c` can have come to, and which calls it has made, after `c`
was torn down. -/
inductive Course (c : Connection) : Task → List (Nat × Call) → Prop where
  /-- The task is where it was. -/
  | there {t : Task} (ht : t.point = c.task.point) : Course c t c.calls
  /-- The write that was under way is over. -/
  | written {url : String} {s : OpenSocket}
      (ht : c.task.point = (Task.writing url s false).point) : Course c (.pumping url s) c.calls
  | closing {now : Nat} {s : OpenSocket} {finished : Bool} (hp : c.task.isPumping = true)
      (hs : c.current? = some s.number) :
      Course c (.closing s finished) ((now, .close s.number) :: c.calls)
  | closed {now k : Nat} (hp : c.task.isPumping = true) (hs : c.current? = some k) :
      Course c .ended ((now, .close k) :: c.calls)
  /-- There was no socket to close, or it was being closed already. -/
  | ended (hr : c.task.isRunning = true) (hp : c.task.isPumping = false) :
      Course c .ended c.calls

namespace Course

variable {c : Connection} {t t' : Task} {cs : List (Nat × Call)} {url : String} {s : OpenSocket}
  {finished : Bool}

/-- News do not move the task. -/
theorem news (h : Course c t cs) (hp : t'.point = t.point) : Course c t' cs := by
  cases h with
  | there ht => exact .there (hp.trans ht)
  | written ht =>
    obtain ⟨s', rfl, hn⟩ := Task.eq_pumping_of_point hp
    refine .written (ht.trans ?_)
    rw [Task.point, Task.point, hn]
  | closing hp' hs =>
    obtain ⟨s', finished, rfl, hn⟩ := Task.eq_closing_of_point hp
    rw [← hn] at hs ⊢
    exact .closing hp' hs
  | closed hp' hs =>
    rw [Task.eq_ended_of_point hp]
    exact .closed hp' hs
  | ended hr hp' =>
    rw [Task.eq_ended_of_point hp]
    exact .ended hr hp'

theorem stop (h : Course c t cs) (hr : t.isRunning = true) (hs : t.socket? = none) :
    Course c .ended cs := by
  cases h with
  | there ht =>
    refine .ended ((Task.isRunning_of_point ht).symm.trans hr) ?_
    rw [← Task.isPumping_of_point ht]
    cases t with
    | pumping | writing => cases hs
    | _ => rfl
  | written | closing => cases hs
  | closed | ended => cases hr

theorem write (h : Course c (.writing url s finished) cs) : Course c (.pumping url s) cs := by
  cases h with
  | there ht => exact .written ht.symm

theorem close (h : Course c (.pumping url s) cs) (now : Nat) :
    Course c (.closing s false) ((now, .close s.number) :: cs) := by
  cases h with
  | there ht => exact .closing (Task.isPumping_of_point ht).symm (Task.number_of_point ht).symm
  | written ht => exact .closing (Task.isPumping_of_point ht) (Task.number_of_point ht)

theorem finish (h : Course c (.closing s finished) cs) : Course c .ended cs := by
  cases h with
  | there ht => exact .ended (Task.isRunning_of_point ht).symm (Task.isPumping_of_point ht).symm
  | closing hp hs => exact .closed hp hs

/-- No task is started. -/
theorem isRunning (h : Course c t cs) (ht : t.isRunning = true) : c.task.isRunning = true := by
  cases h with
  | there hp => exact (Task.isRunning_of_point hp).symm.trans ht
  | written hp => exact Task.isRunning_of_point hp
  | closing hp => exact Task.isRunning_of_isPumping hp
  | closed | ended => cases ht

/-- No call is made but one, which closes the socket that the task held. -/
theorem calls (h : Course c t cs) :
    cs = c.calls ∨ ∃ now k, c.task.isPumping = true ∧ c.current? = some k ∧
      cs = (now, .close k) :: c.calls := by
  cases h with
  | there | written | ended => exact .inl rfl
  | closing hp hs => exact .inr ⟨_, _, hp, hs, rfl⟩
  | closed hp hs => exact .inr ⟨_, _, hp, hs, rfl⟩

/-- A task that has let go of the socket over which it carried frames has closed it. -/
theorem calls_of_progress (h : Course c t cs) (hp : c.task.isPumping = true)
    (ht : 3 ≤ t.progress) : ∃ now k, c.current? = some k ∧ cs = (now, .close k) :: c.calls := by
  cases h with
  | there hpt =>
    have hl := Task.progress_lt_of_isPumping ((Task.isPumping_of_point hpt).trans hp)
    omega
  | written => simp [Task.progress] at ht
  | closing _ hs => exact ⟨_, _, hs, rfl⟩
  | closed _ hs => exact ⟨_, _, hs, rfl⟩
  | ended _ hn => cases hp.symm.trans hn

end Course

/-- The connection `c` was torn down, and `c'` is what came of it: besides its state, which is that
of a torn down connection, nothing has changed but how far the task has come on its way out, and
whether the owner still holds the connection. -/
structure Over (c c' : Connection) : Prop where
  connection : c' =
    { c with
      disposed := true
      state := c.dispose.state
      held := c'.held
      task := c'.task
      calls := c'.calls }
  course : Course c c'.task c'.calls

namespace Over

variable {c c' : Connection}

theorem disposed (h : Over c c') : c'.disposed = true := by
  rw [h.connection]

theorem of_teardown (now : Nat) {e : Event} (he : e.isTeardown = true) :
    Over c (e.act now c) := by
  obtain ⟨held, h⟩ := act_of_teardown now c he
  rw [h]
  exact ⟨rfl, .there rfl⟩

/-- A step that only moves the task on. -/
theorem move (h : Over c c') {held : Bool} {task : Task} {calls : List (Nat × Call)}
    (hc : Course c task calls) :
    Over c { c' with held := held, task := task, calls := calls } := by
  refine ⟨?_, hc⟩
  rw [h.connection]

theorem turn (h : Over c c') (now : Nat) : Over c ((c'.turn now).getD c') := by
  have hc := h.course
  rw [turn_of_disposed h.disposed]
  cases ht : c'.task with
  | unstarted | ended => exact h
  | starting url | opening url deadline answer | waiting url next =>
    rw [ht] at hc
    exact h.move (hc.stop rfl rfl)
  | pumping url s =>
    rw [ht] at hc
    exact h.move (hc.close now)
  | writing url s finished =>
    rw [ht] at hc
    cases finished with
    | false => exact h
    | true => exact h.move hc.write
  | closing s finished =>
    rw [ht] at hc
    cases finished with
    | false => exact h
    | true => exact h.move hc.finish

theorem act (h : Over c c') (now : Nat) (e : Event) : Over c (e.act now c') := by
  by_cases he : e = .turn
  · rw [he]
    exact h.turn now
  · obtain ⟨held, task, hp, ha⟩ := act_of_disposed h.disposed now he
    rw [ha]
    exact h.move (h.course.news hp)

theorem after {r : Run} (h : Over c r.connection) (es : List Event) :
    Over c (r.after es).connection :=
  Run.after_induction (fun _ r => Over c r.connection) h (fun _ e h => h.act _ e) es

theorem refl (hd : c.disposed = true) : Over c c := by
  refine ⟨?_, .there rfl⟩
  rw [dispose_of_disposed hd, ← hd]

end Over

/-! ## Progress -/

theorem progress_le_notice (n : News) (c : Connection) :
    c.task.progress ≤ (c.notice n).task.progress := by
  unfold notice
  split
  · next ht => rw [ht]; exact Nat.le_refl 4
  · next url s finished ht =>
    rw [ht]
    cases finished <;> simp [proceed, Task.progress]
  · next s finished ht =>
    rw [ht]
    cases finished <;> simp [proceed, Task.progress]
  · exact Nat.le_of_eq (Task.progress_receive _ _).symm
  · exact Nat.le_refl _

/-- Nothing throws a task back on its way out. -/
theorem progress_le_act {c : Connection} (hd : c.disposed = true) (now : Nat) (e : Event) :
    c.task.progress ≤ (e.act now c).task.progress := by
  rcases act_cases hd now e with rfl | ⟨n, rfl⟩ | ⟨held, ha⟩
  · rw [Event.act, turn_of_disposed hd]
    rcases ht : c.task with _ | _ | _ | _ | ⟨_, _, _ | _⟩ | _ | ⟨_, _ | _⟩ | _ <;>
      simp [ht, close, call, proceed, Task.progress]
  · exact progress_le_notice n c
  · rw [ha]

/-- What a task waits for on its way out, from each point to the next. -/
def exits : List Event := [.news .written, .turn, .turn, .news .closed, .turn]

theorem progress_act_of_exit {c : Connection} (hd : c.disposed = true) (now : Nat) {n : Nat}
    {e : Event} (he : exits[n]? = some e) (hn : n ≤ c.task.progress) :
    n + 1 ≤ (e.act now c).task.progress := by
  rcases Nat.lt_or_eq_of_le hn with hn | rfl
  · exact Nat.le_trans hn (progress_le_act hd now e)
  · rcases ht : c.task with _ | _ | _ | _ | ⟨_, _, _ | _⟩ | _ | ⟨_, _ | _⟩ | _ <;>
      rw [ht] at he <;> cases he <;>
      simp [Event.act, turn, notice, hd, ht, close, call, proceed, Task.progress]

namespace Run

variable {r : Run} {es : List Event}

theorem disposed_after (hd : r.connection.disposed = true) (es : List Event) :
    (r.after es).connection.disposed = true :=
  ((Over.refl hd).after es).disposed

theorem progress_le_after (hd : r.connection.disposed = true) (es : List Event) :
    r.connection.task.progress ≤ (r.after es).connection.task.progress := by
  induction es generalizing r with
  | nil => exact Nat.le_refl _
  | cons e es ih => exact (progress_le_act hd r.now e).trans (ih (disposed_after hd [e]))

/-- A task that gets what it waits for comes on, whatever else happens in between. -/
theorem progress_after (hd : r.connection.disposed = true) {n k : Nat} (hk : n + k ≤ 5)
    (hn : n ≤ r.connection.task.progress) (hs : List.Sublist ((exits.drop n).take k) es) :
    n + k ≤ (r.after es).connection.task.progress := by
  induction k generalizing n r es with
  | zero => exact hn.trans (progress_le_after hd es)
  | succ k ih =>
    have hx : n < exits.length := by
      show n < 5
      omega
    rw [List.drop_eq_getElem_cons hx, List.take_succ_cons] at hs
    obtain ⟨first, rest, rfl, he, hr⟩ := List.cons_sublist_iff.1 hs
    obtain ⟨before, between, rfl⟩ := List.append_of_mem he
    have hb := disposed_after hd before
    have hd' := disposed_after hb [exits[n]]
    have hp : n + 1 ≤ ((r.after before).step exits[n]).connection.task.progress :=
      progress_act_of_exit hb _ (List.getElem?_eq_getElem hx)
        (hn.trans (progress_le_after hd before))
    rw [after_append, after_append, after_cons, show n + (k + 1) = n + 1 + k by omega]
    exact ih (disposed_after hd' between) (by omega) (hp.trans (progress_le_after hd' between)) hr

end Run

/-! ## Observers -/

/-- Nothing follows the end of a connection. -/
theorem notMem_of_isChain {s : ConnectionState} {l : List ConnectionState}
    (h : (s :: l).IsChain fun later earlier =>
      earlier ≠ later ∧ earlier.canBecome later = true) : .disconnected ∉ l := by
  induction l generalizing s with
  | nil => exact List.not_mem_nil
  | cons a l ih =>
    obtain ⟨⟨-, hc⟩, hl⟩ := List.isChain_cons_cons.1 h
    rw [List.mem_cons, not_or]
    refine ⟨fun ha => ?_, ih hl⟩
    rw [← ha] at hc
    cases hc

/-- Observers are told of the end once. -/
theorem Agrees.published_once {h : History} {c : Connection} (ha : Agrees h c)
    (hd : c.disposed = true) : c.state.published.count .disconnected = 1 := by
  have hv := ha.down hd
  obtain ⟨hh, hc⟩ := ha.inOrder
  unfold Watched.seen at hh hc
  rw [hv] at hh
  cases hp : c.state.published with
  | nil => rw [hp] at hh; cases hh
  | cons s l =>
    rw [hp] at hh hc
    have hl := notMem_of_isChain hc
    cases hh
    rw [List.count_cons_self, List.count_eq_zero.2 fun hm => hl ?_]
    exact List.mem_append_left _ (by rwa [List.map_id])

/-- How a connection stands, as `c'`, that was torn down when it stood as `c`. -/
structure Silenced (c c' : Connection) : Prop where
  disconnected : c'.state.value = .disconnected
  /-- Observers are told of the end once. -/
  toldOnce : c'.state.published.count .disconnected = 1
  /-- Observers are told of no other state. -/
  state : c'.state = c.dispose.state
  /-- Observers are told of no message. -/
  latest : c'.latest = c.latest
  connect : ∀ url, c'.connect url = c'
  send : ∀ frame, c'.send frame = (c', false)
  dispose : c'.dispose = c'
  drop : c'.drop = { c' with held := false }
  attempts : c'.attempts = c.attempts
  opened : c'.opened = c.opened
  handed : ∀ k, c'.handed k = c.handed k
  /-- The task makes no call at all, but for one that closes the socket that it held. -/
  calls : c'.calls = c.calls ∨
    ∃ now k, c.current? = some k ∧ c'.calls = (now, .close k) :: c.calls
  isRunning : c'.task.isRunning = true → c.task.isRunning = true

theorem Over.silenced {h : History} {c c' : Connection} (ho : Over c c') (ha : Agrees h c') :
    Silenced c c' := by
  have hd := ho.disposed
  have hc : c'.calls = c.calls ∨
      ∃ now k, c.current? = some k ∧ c'.calls = (now, .close k) :: c.calls := by
    rcases ho.course.calls with hc | ⟨now, k, -, hk, hc⟩
    · exact .inl hc
    · exact .inr ⟨now, k, hk, hc⟩
  exact {
    disconnected := ha.down hd
    toldOnce := ha.published_once hd
    state := by rw [ho.connection]
    latest := by rw [ho.connection]
    connect := connect_of_disposed hd
    send := send_of_disposed hd
    dispose := dispose_of_disposed hd
    drop := drop_of_disposed hd
    attempts := by
      rcases hc with hc | ⟨now, k, -, hc⟩ <;> rw [Connection.attempts, hc] <;> rfl
    opened := by rw [ho.connection]
    handed := fun k => by
      rcases hc with hc | ⟨now, k', -, hc⟩ <;> rw [Connection.handed, hc] <;> rfl
    calls := hc
    isRunning := ho.course.isRunning }

namespace Run

/-! ## Runs -/

section Turns

variable {c : Connection} {r : Run} {es : List Event}

/-- Until the task takes a turn it stays at its point and makes no call. -/
theorem after_of_no_turn (hd : r.connection.disposed = true) (hn : .turn ∉ es) :
    (r.after es).connection.task.point = r.connection.task.point ∧
      (r.after es).connection.calls = r.connection.calls := by
  induction es generalizing r with
  | nil => exact ⟨rfl, rfl⟩
  | cons e es ih =>
    obtain ⟨he, hn⟩ := not_or.1 (List.mem_cons.not.1 hn)
    obtain ⟨held, task, hp, ha⟩ := act_of_disposed hd r.now (Ne.symm he)
    have hs : (r.step e).connection = { r.connection with held := held, task := task } := ha
    obtain ⟨hp', hc'⟩ := ih (r := r.step e) (by rw [hs]; exact hd) hn
    rw [hs] at hp' hc'
    exact ⟨hp'.trans hp, hc'⟩

/-- A socket that frames were carried over is closed at the next turn, and that is the last call
that the task makes. -/
theorem closes_socket {url : String} {s : OpenSocket} {before rest : List Event}
    (hd : r.connection.disposed = true)
    (hp : r.connection.task.point = (Task.pumping url s).point) (hn : .turn ∉ before) :
    let r' := r.after (before ++ .turn :: rest)
    r'.connection.calls = ((r.after before).now, .close s.number) :: r.connection.calls ∧
      (List.Sublist [.news .closed, .turn] rest → r'.connection.task.isRunning = false) := by
  have hd' := disposed_after hd before
  obtain ⟨hp', hc⟩ := after_of_no_turn hd hn
  obtain ⟨s', ht, hs⟩ := Task.eq_pumping_of_point (hp'.trans hp)
  obtain ⟨r₁, hr₁⟩ : ∃ r₁, r₁ = (r.after before).step .turn := ⟨_, rfl⟩
  have ha : r₁.connection = (r.after before).connection.close (r.after before).now s' := by
    rw [hr₁]
    simp only [step, Event.act]
    rw [turn_of_disposed hd', ht, Option.getD_some]
  have hd₁ : r₁.connection.disposed = true := by rw [ha]; exact hd'
  have hl : 3 ≤ r₁.connection.task.progress := by rw [ha]; exact Nat.le_refl 3
  rw [after_append, after_cons, ← hr₁]
  refine ⟨?_, fun h => Task.not_running_of_progress (progress_after hd₁ (k := 2) ?_ hl h)⟩
  · rcases ((Over.refl hd₁).after rest).course.calls with h | ⟨-, -, hp₁, -, -⟩
    · rw [h, ha, ← hc, ← hs]
      rfl
    · rw [ha] at hp₁
      cases hp₁
  · exact Nat.le_refl 5

end Turns

/-- What becomes of a run that is torn down by `e`, while `more` happens. -/
structure StaysDisconnected (r : Run) (e : Event) (more : List Event) : Prop
    extends Silenced r.connection (r.after (e :: more)).connection where
  /-- Without a socket the task ends at its next turn. -/
  ends : r.connection.task.socket? = none → .turn ∈ more →
    (r.after (e :: more)).connection.task.isRunning = false
  /-- A socket over which the task carries frames stays as it is until its next turn. -/
  untilTurn : ∀ url s, r.connection.task = .pumping url s → .turn ∉ more →
    (r.after (e :: more)).connection.calls = r.connection.calls
  /-- At that turn the task closes the socket, and then it ends as soon as that is over. -/
  closes : ∀ url s, r.connection.task = .pumping url s →
    ∀ before rest, more = before ++ .turn :: rest → .turn ∉ before →
      let c' := (r.after (e :: more)).connection
      c'.calls = ((r.after (e :: before)).now, .close s.number) :: r.connection.calls ∧
        (List.Sublist [.news .closed, .turn] rest → c'.task.isRunning = false)

/-- From the moment at which a connection is torn down, whatever its task was doing, and whatever
the owner, the network and the task do from then on, in whatever order: it stays disconnected. -/
theorem stays_disconnected (policy : ReconnectPolicy) (es : List Event) {e : Event}
    (he : e.isTeardown = true) (more : List Event) :
    StaysDisconnected ((start policy).after es) e more := by
  have ha := agrees_after policy (es ++ e :: more)
  rw [after_append] at ha
  generalize (start policy).after es = r at ha ⊢
  obtain ⟨held, hs⟩ : ∃ held, (r.step e).connection =
      { r.connection with
        disposed := true, state := r.connection.dispose.state, held := held } :=
    act_of_teardown r.now r.connection he
  have hd : (r.step e).connection.disposed = true := by rw [hs]
  have hcalls : (r.step e).connection.calls = r.connection.calls := by rw [hs]
  have ho : Over r.connection (r.after (e :: more)).connection :=
    (Over.of_teardown r.now he).after (r := r.step e) more
  refine { ho.silenced ha with
    ends := fun hn ht => ?_, untilTurn := fun url s ht hn => ?_, closes := ?_ }
  · have hp : 4 ≤ (r.step e).connection.task.progress := by
      rw [hs]
      exact Task.progress_of_no_socket hn
    exact Task.not_running_of_progress
      (progress_after hd (k := 1) (Nat.le_refl 5) hp (List.singleton_sublist.2 ht))
  · exact (after_of_no_turn hd hn).2.trans hcalls
  · rintro url s ht before rest rfl hn
    have hp : (r.step e).connection.task.point = (Task.pumping url s).point := by rw [hs, ht]
    rw [← hcalls]
    exact closes_socket hd hp hn

/-- A socket is open, a frame waits, and a message has arrived. -/
def busy : List Event :=
  [.connect "ws://localhost", .turn, .news (.answered none), .turn, .send "a",
    .news (.event (.message "b"))]

/-- The task takes its turn late, and the owner goes on asking. -/
def late : List Event :=
  [.send "c", .pass 20, .turn, .connect "ws://other", .dispose, .news .closed, .turn]

/-- Neither the frame nor the message gets through when the owner lets go of the connection. -/
theorem stays_disconnected_busy :
    Event.drop.isTeardown = true ∧
      let c' := ((start .standard).after (busy ++ .drop :: late)).connection
      c'.state.value = .disconnected ∧ c'.latest.value = none ∧ c'.handed 1 = [] ∧
        c'.calls = [(20, .close 1), (0, .attempt "ws://localhost")] ∧
        c'.task.isRunning = false := by
  have h := stays_disconnected .standard busy (e := .drop) rfl late
  have hs : List.Sublist [.news .closed, .turn] (late.drop 3) :=
    ((List.Sublist.refl _).cons _).cons _
  obtain ⟨hc, ht⟩ := h.closes "ws://localhost" { number := 1, inbox := [.message "b"] } (by decide)
    [.send "c", .pass 20] (late.drop 3) rfl (by simp)
  rw [after_append]
  refine ⟨rfl, h.disconnected, ?_, ?_, ?_, ht hs⟩
  · rw [h.latest]
    rfl
  · rw [h.handed]
    decide
  · rw [hc]
    decide

end Run

end BackendMonitor.Connection
