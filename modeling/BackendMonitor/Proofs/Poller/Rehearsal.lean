import BackendMonitor.Poller.Rehearsal
import BackendMonitor.Proofs.Poller.Calm
import BackendMonitor.Proofs.Schedule

/-!
# Rehearsals of a poller at rest

Every turn leaves less to do (`Turn.load_lt`), as a tick that is taken moves the ticker on. So the
task comes to rest at every instant, by itself (`turn_rested`) and in a rehearsal, where calls are
answered (`Rehearsal.atRest_rest`). At rest nothing happens before the next tick or the next answer
(`Rehearsal.restful`), so that to let time pass is to let the task run at every instant
(`Rehearsal.advance_eq`). What answers, turns of the task and calls of the owner keep, whole
rehearsals keep (`Rehearsal.Kept`).
-/

namespace BackendMonitor

/-! ## Tickers -/

/-- A tick that is taken moves the ticker on by a period at least. -/
theorem Ticker.add_period_le_due_take {now : Nat} {t : Ticker} (hd : t.due ≤ now) :
    t.due + t.period ≤ (t.take now).due := by
  have hm := Nat.mod_le (now - t.due) t.period
  unfold take
  simp only
  split <;> omega

/-- A tick that is taken moves the ticker on. -/
theorem Ticker.due_lt_take {now : Nat} {t : Ticker} (hp : 0 < t.period) (hd : t.due ≤ now) :
    t.due < (t.take now).due :=
  Nat.lt_of_lt_of_le (Nat.lt_add_of_pos_right hp) (add_period_le_due_take hd)

namespace Poller

variable {ρ : Type}

/-- The ticker of the task is one that moves on. -/
def Ticking (p : Poller ρ) : Prop :=
  ∀ t, p.task = .tracking t → 0 < t.ticker.period

/-- How much the task has to do at the instant `now`: each request to cancel may lead to a call and
its answer, and each tick to a poll and its answer. -/
def load (now : Nat) (p : Poller ρ) : Nat :=
  match p.task with
  | .unstarted | .ended => 0
  | .starting _ => 2 * p.cancels + 3
  | .submitting _ => 2 * p.cancels + 2
  | .tracking t =>
    2 * p.cancels + t.cancel.isSome.toNat + 2 * (now + 1 - t.ticker.due) + t.poll.isSome.toNat + 1

theorem load_le_turnBound (now : Nat) (p : Poller ρ) : p.load now ≤ p.turnBound now := by
  unfold load turnBound
  cases p.task with
  | tracking t =>
    have h₁ := t.cancel.isSome.toNat_le
    have h₂ := t.poll.isSome.toNat_le
    simp only
    omega
  | _ => simp only; omega

/-! ## Turns -/

/-- The task after a poll: it has ended, or goes on without one. -/
theorem task_onPolled (t : Tracking) (epoch : Nat) (result : Result) (p : Poller ρ) :
    (p.onPolled t epoch result).cancels = p.cancels ∧
      ((p.onPolled t epoch result).task = .ended ∨
        ∃ t', (p.onPolled t epoch result).task = .tracking t' ∧ t'.ticker = t.ticker ∧
          t'.cancel = t.cancel ∧ t'.poll = none) := by
  unfold onPolled
  simp only
  cases t.epochs.accept? epoch with
  | none => exact ⟨rfl, .inr ⟨_, rfl, rfl, rfl, rfl⟩⟩
  | some epochs =>
    cases result with
    | ok snapshot =>
      simp only [onSnapshot]
      split
      · exact ⟨rfl, .inr ⟨_, rfl, rfl, rfl, rfl⟩⟩
      · split
        · exact ⟨rfl, .inr ⟨_, rfl, rfl, rfl, rfl⟩⟩
        · exact ⟨rfl, .inr ⟨_, rfl, rfl, rfl, rfl⟩⟩
        · exact ⟨cancels_publish _ _, .inr ⟨_, task_publish _ _, rfl, rfl, rfl⟩⟩
        · exact ⟨cancels_publish _ _, .inl rfl⟩
    | error f =>
      simp only [onPollFailed]
      split
      · exact ⟨cancels_publish _ _, .inl rfl⟩
      · split
        · exact ⟨cancels_publish _ _, .inl rfl⟩
        · exact ⟨rfl, .inr ⟨_, rfl, rfl, rfl, rfl⟩⟩

variable {now : Nat} {p p' : Poller ρ}

/-- Every turn leaves less to do. -/
theorem Turn.load_lt (h : Turn now p p') (hk : Ticking p) : p'.load now < p.load now := by
  cases h with
  | stop hd hr =>
    show 0 < p.load now
    unfold isRunning at hr
    unfold load
    cases ht : p.task with
    | unstarted | ended => rw [ht] at hr; cases hr
    | _ => simp
  | submit hd ht => simp [load, ht]
  | refused hd ht => simp [load, ht]
  | accepted hd ht =>
    have := p.period_pos
    simp [load, ht]
    omega
  | @ignore t hd ht hc ho =>
    simp only [load, ht]
    omega
  | @askCancel t hd ht hc ho hp =>
    simp only [load, ht, ho, Option.isSome_some, Option.isSome_none, Bool.toNat_true,
      Bool.toNat_false]
    omega
  | @cancelled t result hd ht hc hr hp | @resume t result hd ht hc hr hp =>
    simp only [load, ht, hr, Option.isSome_some, Option.isSome_none, Bool.toNat_true,
      Bool.toNat_false]
    omega
  | @polled t epoch result hd ht hc hr =>
    obtain ⟨hn, he | ⟨t', he, hk, hl, hp⟩⟩ := task_onPolled t epoch result p
    · simp [load, ht, he]
    · simp only [load, ht, he, hk, hl, hp, hn, hr, Option.isSome_some, Option.isSome_none,
        Bool.toNat_true, Bool.toNat_false]
      omega
  | @poll t hd ht hc hp hn =>
    have := Ticker.due_lt_take (hk t ht) hn
    simp only [load, ht, hp, Option.isSome_some, Option.isSome_none, Bool.toNat_true,
      Bool.toNat_false]
    omega

theorem Turn.ticking (h : Turn now p p') (hk : Ticking p) : Ticking p' := by
  cases h with
  | stop | submit | refused => exact fun t ht => by cases ht
  | accepted hd ht =>
    rintro t ht
    cases ht
    exact p.period_pos
  | ignore hd ht hc ho => exact hk
  | askCancel hd ht | cancelled hd ht | resume hd ht | poll hd ht =>
    rintro t' ht'
    cases ht'
    have hk := hk _ ht
    exact hk
  | @polled t epoch result hd ht hc hr =>
    obtain ⟨-, he | ⟨t', he, hk', -⟩⟩ := task_onPolled t epoch result p
    · exact fun t ht => by cases he.symm.trans ht
    · rintro t'' ht''
      cases he.symm.trans ht''
      rw [hk']
      exact hk t ht

/-! ## Answers -/

/-- An answer that arrives leaves the task as much to do as before. -/
theorem load_answer (now : Nat) (a : Answer) (p : Poller ρ) :
    (p.answer a).load now = p.load now := by
  cases a with
  | submitted result =>
    rcases ht : p.task with _ | _ | (_ | _) | _ | _ <;> simp [answer, load, ht]
  | status result | cancelled result => cases ht : p.task <;> simp [answer, load, ht]

theorem ticking_answer (hk : Ticking p) (a : Answer) : Ticking (p.answer a) := by
  unfold answer
  split
  · exact fun t ht => by cases ht
  · next ht =>
    rintro t' ht'
    cases ht'
    have hk := hk _ ht
    exact hk
  · next ht =>
    rintro t' ht'
    cases ht'
    have hk := hk _ ht
    exact hk
  · exact hk

/-! ## Rest -/

/-- When a task that follows a job has nothing to do: nothing about canceling is left, and the answer
to the poll or the next tick is yet to come. -/
theorem turn_eq_none_iff_of_tracking {t : Tracking} (hd : p.disposed = false)
    (ht : p.task = .tracking t) :
    p.turn now = none ↔
      Clear p ∧ (∀ f ∈ t.poll, f.result = none) ∧ ∀ d ∈ p.due?, now < d := by
  have hdue : p.due? = if t.poll.isNone then some t.ticker.due else none := by
    rw [due?, ht]
  by_cases hc : Clear p
  · rw [turn_of_clear hd ht hc, hdue]
    rcases t.poll with _ | ⟨epoch, _ | result⟩ <;> simp [hc, Ticker.isDue]
  · refine ⟨fun h => absurd ?_ hc, fun h => absurd h.1 hc⟩
    rw [turn_of_tracking now hd ht, turnTracking] at h
    split at h
    · cases h
    · next hn =>
      refine ⟨by omega, fun t' ht' result hr => ?_⟩
      cases ht.symm.trans ht'
      rw [hr] at h
      cases h

/-- A task has nothing to do before the instant at which something is due. -/
theorem lt_of_mem_due? {d : Nat} (h : p.turn now = none) (hd : d ∈ p.due?) : now < d := by
  cases ht : p.task with
  | tracking t =>
    cases hd' : p.disposed with
    | false => exact ((turn_eq_none_iff_of_tracking hd' ht).1 h).2.2 d hd
    | true => rw [turn, ht] at h; exact absurd h (by simp [hd'])
  | _ => rw [due?, ht] at hd; cases hd

/-- A task that has nothing to do has nothing to do until something is due. -/
theorem turn_eq_none_of_lt {later : Nat} (h : p.turn now = none)
    (hl : ∀ d ∈ p.due?, later < d) : p.turn later = none := by
  cases ht : p.task with
  | tracking t =>
    cases hd : p.disposed with
    | false =>
      obtain ⟨hc, hp, -⟩ := (turn_eq_none_iff_of_tracking hd ht).1 h
      exact (turn_eq_none_iff_of_tracking hd ht).2 ⟨hc, hp, hl⟩
    | true => rw [turn, ht] at h; exact absurd h (by simp [hd])
  | submitting result =>
    rw [turn, ht] at h ⊢
    cases result with
    | none => exact h
    | some result => simp only at h; split at h <;> cases h
  | starting request => rw [turn, ht] at h; cases h
  | unstarted | ended => rw [turn, ht]

/-- The poller after all the turns that it takes at the instant `now`. -/
def rested (now : Nat) (p : Poller ρ) : Poller ρ :=
  Schedule.runTurns (turn now) (p.turnBound now) p

/-- A poller whose ticker moves on has less to do after every turn. -/
theorem tiring (now : Nat) :
    Schedule.Tiring (turn now : Poller ρ → Option (Poller ρ)) Ticking (load now) where
  keeps _ _ ht h := (turn_eq_some ht).ticking h
  tires _ _ ht h := (turn_eq_some ht).load_lt h

theorem turn_rested (hk : Ticking p) (now : Nat) : (p.rested now).turn now = none :=
  (tiring now).rests hk (p.load_le_turnBound now)

theorem ticking_rested (hk : Ticking p) (now : Nat) : Ticking (p.rested now) :=
  Schedule.runTurns_induction Ticking (tiring now).keeps _ hk

/-- What holds after a first turn, and is kept by every turn, holds when all are taken. -/
theorem rested_of_turn (motive : Poller ρ → Prop)
    (hturn : ∀ p p', p.turn now = some p' → motive p → motive p') (ht : p.turn now = some p')
    (h : motive p') : motive (p.rested now) := by
  obtain ⟨limit, hl⟩ : ∃ limit, p.turnBound now = limit + 1 := by
    unfold turnBound
    split
    · exact ⟨_, rfl⟩
    · exact ⟨_, rfl⟩
  rw [rested, hl, Schedule.runTurns_of_some ht]
  exact Schedule.runTurns_induction motive hturn limit h

/-- A poller to which nothing has happened. -/
theorem new_of_ofSettings {s : PollSettings} (h : ofSettings s = .ok p) :
    p.task = .unstarted ∧ p.phase = .idle ∧ p.calls = [] := by
  unfold ofSettings at h
  split at h
  · cases h
    exact ⟨rfl, rfl, rfl⟩
  · cases h

theorem polls_of_ofSettings {s : PollSettings} (h : ofSettings s = .ok p) : p.polls = 0 := by
  rw [polls, (new_of_ofSettings h).2.2]
  rfl

theorem ticking_of_ofSettings {s : PollSettings} (h : ofSettings s = .ok p) : Ticking p :=
  fun t ht => by cases (new_of_ofSettings h).1.symm.trans ht

namespace Rehearsal

variable {r r' : Rehearsal ρ}

/-! ## Turns of a rehearsal -/

/-- No answer has arrived that is not handed over. -/
def Delivered (now : Nat) (r : Rehearsal ρ) : Prop :=
  ∀ a ∈ r.arriving, now < a.1

theorem delivered_deliver (now : Nat) (r : Rehearsal ρ) : Delivered now (r.deliver now) :=
  fun _ ha => by simpa using (List.mem_filter.1 ha).2

theorem deliver_of_delivered (h : Delivered now r) : r.deliver now = r := by
  have h₁ : r.arriving.filter (fun a => decide (a.1 ≤ now)) = [] :=
    List.filter_eq_nil_iff.2 fun a ha => by have := h a ha; simpa using this
  have h₂ : r.arriving.filter (fun a => decide (now < a.1)) = r.arriving :=
    List.filter_eq_self.2 fun a ha => by simpa using h a ha
  unfold deliver
  rw [h₁, h₂]
  rfl

@[simp] theorem deliver_deliver (now : Nat) (r : Rehearsal ρ) :
    (r.deliver now).deliver now = r.deliver now :=
  deliver_of_delivered (delivered_deliver now r)

/-- What every answer keeps holds when answers are handed over. -/
theorem deliver_induction (motive : Poller ρ → Prop)
    (hanswer : ∀ p a, motive p → motive (p.answer a)) (now : Nat) (h : motive r.poller) :
    motive (r.deliver now).poller := by
  refine List.foldlRecOn _ _ h ?_
  intro p hp a _
  exact hanswer p a.2 hp

/-- Hands calls to the server, the last one first in the list. -/
def receiveAll (now : Nat) (calls : List (Nat × Call ρ)) (r : Rehearsal ρ) : Rehearsal ρ :=
  calls.reverse.foldl (fun r c => r.receive now c.2) r

@[simp] theorem poller_receive (now : Nat) (c : Call ρ) (r : Rehearsal ρ) :
    (r.receive now c).poller = r.poller := by
  cases c <;> rfl

theorem poller_receiveAll (now : Nat) (calls : List (Nat × Call ρ)) (r : Rehearsal ρ) :
    (r.receiveAll now calls).poller = r.poller := by
  refine List.foldlRecOn _ _ (motive := fun r' : Rehearsal ρ => r'.poller = r.poller) rfl ?_
  intro r' hr' c _
  rw [poller_receive, hr']

theorem turn_eq (now : Nat) (r : Rehearsal ρ) :
    r.turn now = ((r.deliver now).poller.turn now).map fun p =>
      ({ r.deliver now with poller := p } : Rehearsal ρ).receiveAll now
        (p.calls.take (p.calls.length - (r.deliver now).poller.calls.length)) := rfl

/-- The server receives the calls that a turn makes. -/
theorem turn_of_some {made : List (Nat × Call ρ)} (h : Delivered now r)
    (ht : r.poller.turn now = some p) (hm : p.calls = made ++ r.poller.calls) :
    r.turn now = some (receiveAll now made { r with poller := p }) := by
  rw [turn_eq, deliver_of_delivered h, ht, Option.map_some, hm, List.length_append,
    Nat.add_sub_cancel, List.take_left']
  rfl

theorem turn_of_none (h : Delivered now r) (ht : r.poller.turn now = none) :
    r.turn now = none := by
  rw [turn_eq, deliver_of_delivered h, ht]
  rfl

/-- A turn, after which the answers that have arrived are handed over. -/
def deliveredTurn (now : Nat) (r : Rehearsal ρ) : Option (Rehearsal ρ) :=
  (r.turn now).map (·.deliver now)

/-- What holds between two turns. -/
structure Ready (now : Nat) (r : Rehearsal ρ) : Prop where
  ticking : Ticking r.poller
  delivered : Delivered now r

theorem Ready.of_ticking (hk : Ticking r.poller) (now : Nat) : Ready now (r.deliver now) :=
  ⟨deliver_induction Ticking (fun _ a h => ticking_answer h a) now hk, delivered_deliver now r⟩

theorem load_deliver (now : Nat) (r : Rehearsal ρ) :
    (r.deliver now).poller.load now = r.poller.load now :=
  deliver_induction (fun p => p.load now = r.poller.load now)
    (fun _ a h => (load_answer now a _).trans h) now rfl

theorem load_deliver_le (now : Nat) (r : Rehearsal ρ) :
    (r.deliver now).poller.load now ≤ r.poller.turnBound now :=
  Nat.le_trans (Nat.le_of_eq (load_deliver now r)) (load_le_turnBound now r.poller)

/-- A turn of a rehearsal is one of its poller, after which answers are handed over. -/
theorem deliveredTurn_eq_some (h : Ready now r) (ht : r.deliveredTurn now = some r') :
    ∃ p, Turn now r.poller p ∧ p.load now = r'.poller.load now ∧
      (Ticking p → Ready now r') := by
  obtain ⟨r'', ht', rfl⟩ := Option.map_eq_some_iff.1 ht
  rw [turn_eq, deliver_of_delivered h.delivered] at ht'
  obtain ⟨p, hp, rfl⟩ := Option.map_eq_some_iff.1 ht'
  refine ⟨p, turn_eq_some hp, ?_, fun hk => .of_ticking ?_ now⟩
  · rw [load_deliver, poller_receiveAll]
  · rwa [poller_receiveAll]

/-- Every turn of a rehearsal leaves less to do. -/
theorem tiring (now : Nat) :
    Schedule.Tiring (deliveredTurn now : Rehearsal ρ → Option (Rehearsal ρ)) (Ready now)
      (·.poller.load now) where
  keeps _ _ ht h := by
    obtain ⟨p, hp, -, hr⟩ := deliveredTurn_eq_some h ht
    exact hr (hp.ticking h.ticking)
  tires _ _ ht h := by
    obtain ⟨p, hp, hl, -⟩ := deliveredTurn_eq_some h ht
    exact hl ▸ hp.load_lt h.ticking

/-! ## Rest -/

/-- A rehearsal at rest at the instant `now`. -/
structure AtRest (now : Nat) (r : Rehearsal ρ) : Prop extends Ready now r where
  turn : r.poller.turn now = none

theorem rest_eq (now : Nat) (r : Rehearsal ρ) :
    r.rest now =
      { Schedule.runTurns (deliveredTurn now) (r.poller.turnBound now) (r.deliver now) with
        now := now } := by
  have ht : ∀ r : Rehearsal ρ, (r.deliver now).turn now = r.turn now := fun r => by
    rw [turn_eq, turn_eq, deliver_deliver]
  have h := Schedule.map_runTurns ht (r.poller.turnBound now) r
  rw [rest, h]
  rfl

/-- The task comes to rest. -/
theorem atRest_rest (hk : Ticking r.poller) (now : Nat) : AtRest now (r.rest now) := by
  have hr := Ready.of_ticking hk now
  have hready := Schedule.runTurns_induction (Ready now)
    (fun s s' ht h => (tiring now).keeps s s' ht h) (r.poller.turnBound now) hr
  have hnone := (tiring now).rests hr (load_deliver_le now r)
  rw [rest_eq]
  generalize Schedule.runTurns (deliveredTurn now) _ (r.deliver now) = q at *
  refine ⟨⟨hready.ticking, hready.delivered⟩, ?_⟩
  have hnone := Option.map_eq_none_iff.1 hnone
  rw [turn_eq, deliver_of_delivered hready.delivered] at hnone
  exact Option.map_eq_none_iff.1 hnone

/-- To let the task run makes no difference at rest. -/
theorem AtRest.rest_eq (h : AtRest now r) : r.rest now = { r with now := now } := by
  have ht : r.deliveredTurn now = none := by
    rw [deliveredTurn, turn_of_none h.delivered h.turn]
    rfl
  rw [Rehearsal.rest_eq, deliver_of_delivered h.delivered, Schedule.runTurns_of_none ht]

theorem receiveAll_clock (now clock : Nat) (calls : List (Nat × Call ρ)) (r : Rehearsal ρ) :
    ({ r with now := clock } : Rehearsal ρ).receiveAll now calls =
      { r.receiveAll now calls with now := clock } := by
  refine List.foldl_hom (fun r : Rehearsal ρ => { r with now := clock }) ?_
  intro r c
  cases c.2 <;> rfl

/-- What the clock of a rehearsal shows makes no difference to where it comes to rest. -/
theorem rest_clock (now clock : Nat) (r : Rehearsal ρ) :
    ({ r with now := clock } : Rehearsal ρ).rest now = r.rest now := by
  have ht : ∀ r : Rehearsal ρ, ({ r with now := clock } : Rehearsal ρ).turn now =
      (r.turn now).map fun r => { r with now := clock } := by
    intro r
    rw [turn_eq, turn_eq, Option.map_map]
    exact congrArg (fun f => Option.map f _) (funext fun p =>
      receiveAll_clock now clock _ { r.deliver now with poller := p })
  have h := Schedule.runTurns_map ht (r.poller.turnBound now) r
  rw [rest, rest]
  simp only
  rw [h]
  rfl

/-! ## Time -/

/-- What is due next is the next tick or an answer. -/
theorem due?_eq_some {d : Nat} (h : r.due? = some d) :
    d ∈ r.poller.due? ∨ ∃ a ∈ r.arriving, a.1 = d := by
  have hm := (List.min?_eq_some_iff.1 h).1
  rcases List.mem_append.1 hm with hm | hm
  · exact .inl (Option.mem_toList.1 hm)
  · exact .inr (List.mem_map.1 hm)

/-- Neither the next tick nor an answer comes before what is due next. -/
theorem lt_of_lt_due? {later : Nat} (h : ∀ d, r.due? = some d → later < d) :
    (∀ d ∈ r.poller.due?, later < d) ∧ ∀ a ∈ r.arriving, later < a.1 := by
  have hall : ∀ d ∈ r.poller.due?.toList ++ r.arriving.map (·.1), later < d := by
    intro d hd
    cases hm : r.due? with
    | none => rw [List.min?_eq_none_iff.1 hm] at hd; cases hd
    | some m => exact Nat.lt_of_lt_of_le (h m hm) ((List.min?_eq_some_iff.1 hm).2 d hd)
  refine ⟨fun d hd => hall d ?_, fun a ha => hall a.1 ?_⟩
  · exact List.mem_append_left _ (Option.mem_toList.2 hd)
  · exact List.mem_append_right _ (List.mem_map_of_mem ha)

/-- Nothing happens at rest before something is due. -/
theorem restful : Schedule.Restful due? (rest : Nat → Rehearsal ρ → Rehearsal ρ) AtRest where
  rests h _ := atRest_rest h.ticking _
  again h _ := by rw [h.rest_eq, rest_clock]
  twice h _ := (atRest_rest h.ticking _).rest_eq
  due h hd := by
    rcases due?_eq_some hd with hd | ⟨a, ha, rfl⟩
    · exact lt_of_mem_due? h.turn hd
    · exact h.delivered a ha
  stays h _ hd := by
    obtain ⟨hp, ha⟩ := lt_of_lt_due? hd
    exact ⟨⟨h.ticking, ha⟩, turn_eq_none_of_lt h.turn hp⟩

/-- To let time pass is to let the task run at every instant. -/
theorem advance_eq (hk : Ticking r.poller) (ms : Nat) :
    r.advance ms = Schedule.everyInstant rest ms r.now r := by
  have hr := atRest_rest hk r.now
  have h : r.advance ms =
      Schedule.everyInstant rest (r.now + ms - r.now) r.now (r.rest r.now) :=
    restful.passTime_eq hr (Nat.le_add_right _ _) (by omega)
  rw [h, Nat.add_sub_cancel_left]
  exact Schedule.everyInstant_congr hr.rest_eq ms

theorem now_everyInstant (n now : Nat) (r : Rehearsal ρ) :
    (Schedule.everyInstant rest n now r).now = now + n := by
  induction n generalizing now r with
  | zero => rfl
  | succ n ih =>
    rw [Schedule.everyInstant, ih]
    omega

/-- To let no time pass is to let the task run. -/
theorem advance_zero (hk : Ticking r.poller) : r.advance 0 = r.rest r.now :=
  advance_eq hk 0

theorem AtRest.clock (h : AtRest now r) (clock : Nat) : AtRest now { r with now := clock } :=
  ⟨⟨h.ticking, h.delivered⟩, h.turn⟩

/-- Goes from each instant to the next one until the wait is answered, or `n` more have passed and
then it is `target`. -/
def waitEach (target : Nat) : Nat → Rehearsal ρ → Rehearsal ρ
  | 0, r => if r.poller.waited?.isSome then r else { r with now := target }
  | n + 1, r =>
    if r.poller.waited?.isSome then r else waitEach target n (r.rest (r.now + 1))

theorem waitEach_of_waited {target n : Nat} (h : r.poller.waited?.isSome = true) :
    r.waitEach target n = r := by
  cases n <;> exact if_pos h

/-- Instants at which the rehearsal rests can be left out. -/
theorem waitEach_add {target k : Nat} (hw : r.poller.waited? = none)
    (h : ∀ t, r.now < t → t ≤ r.now + k → AtRest t r) (n : Nat) :
    r.waitEach target (k + 1 + n) = (r.rest (r.now + (k + 1))).waitEach target n := by
  have step : ∀ m, r.waitEach target (m + 1) = (r.rest (r.now + 1)).waitEach target m :=
    fun m => if_neg (by simp [hw])
  induction k generalizing r with
  | zero => rw [Nat.zero_add, Nat.add_comm, step]
  | succ k ih =>
    have hr := (h (r.now + 1) (by omega) (by omega)).rest_eq
    rw [show k + 1 + 1 + n = k + 1 + n + 1 by omega, step, hr,
      ih (r := { r with now := r.now + 1 }) hw ?_ ?_, rest_clock]
    · rw [show r.now + 1 + (k + 1) = r.now + (k + 1 + 1) by omega]
    · intro t h₁ h₂
      have h₁ : r.now + 1 < t := h₁
      have h₂ : t ≤ r.now + 1 + k := h₂
      exact (h t (by omega) (by omega)).clock _
    · exact fun m => if_neg (by simp [hw])

theorem waitEach_of_atRest {target n : Nat} (hw : r.poller.waited? = none)
    (h : ∀ t, r.now < t → t ≤ r.now + n → AtRest t r) :
    r.waitEach target n = { r with now := target } := by
  induction n generalizing r with
  | zero => exact if_neg (by simp [hw])
  | succ n ih =>
    have hr := (h (r.now + 1) (by omega) (by omega)).rest_eq
    have step : r.waitEach target (n + 1) = (r.rest (r.now + 1)).waitEach target n :=
      if_neg (by simp [hw])
    rw [step, hr]
    refine ih hw fun t h₁ h₂ => ?_
    have h₁ : r.now + 1 < t := h₁
    have h₂ : t ≤ r.now + 1 + n := h₂
    exact (h t (by omega) (by omega)).clock _

/-- To wait is to look at every instant whether the wait is answered. -/
theorem waitUntil_eq {target limit n : Nat} (h : AtRest r.now r) (hn : r.now + n + 1 = target)
    (hl : n < limit) : (r.waitUntil target limit).1 = r.waitEach target n := by
  induction limit generalizing r n with
  | zero => omega
  | succ limit ih =>
    unfold waitUntil
    cases hw : r.poller.waited? with
    | some w => exact (waitEach_of_waited (by rw [hw]; rfl)).symm
    | none =>
      have wait : (∀ d, r.due? = some d → target ≤ d) →
          ({ r with now := target } : Rehearsal ρ) = r.waitEach target n := by
        intro hd
        refine (waitEach_of_atRest hw fun t h₁ h₂ => ?_).symm
        exact restful.stays h (Nat.le_of_lt h₁) fun d hd' => by have := hd d hd'; omega
      simp only
      split
      · next d hd =>
        have hnd := restful.due h hd
        split
        · next hi =>
          simp only [Bool.and_eq_true, decide_eq_true_eq] at hi
          have hr : AtRest d (r.rest d) := restful.rests h (Nat.le_of_lt hnd)
          -- nothing is due before `d`
          have hskip : r.waitEach target n = (r.rest d).waitEach target (target - d - 1) := by
            have hs : r.waitEach target (d - r.now - 1 + 1 + (target - d - 1)) =
                (r.rest (r.now + (d - r.now - 1 + 1))).waitEach target (target - d - 1) := by
              refine waitEach_add hw (fun t h₁ h₂ => ?_) _
              refine restful.stays h (Nat.le_of_lt h₁) fun d' hd' => ?_
              cases hd.symm.trans hd'
              omega
            rwa [show d - r.now - 1 + 1 + (target - d - 1) = n by omega,
              show r.now + (d - r.now - 1 + 1) = d by omega] at hs
          rw [hskip]
          exact ih hr (show d + (target - d - 1) + 1 = target by omega) (by omega)
        · next hi =>
          refine wait fun d' hd' => ?_
          cases hd.symm.trans hd'
          simp only [Bool.and_eq_true, decide_eq_true_eq, not_and, Nat.not_lt] at hi
          exact hi hnd
      · next hd =>
        refine wait fun d' hd' => ?_
        cases hd.symm.trans hd'

theorem waitTerminal_eq {limit : Nat} (hk : Ticking r.poller) (hl : 0 < limit)
    (hw : r.poller.waited? = none) :
    (r.waitTerminal limit).1 = (r.rest r.now).waitEach (r.now + limit) (limit - 1) := by
  have h : AtRest r.now (r.rest r.now) := atRest_rest hk r.now
  rw [waitTerminal, hw]
  simp only
  rw [if_neg (by omega)]
  exact waitUntil_eq h (show r.now + (limit - 1) + 1 = r.now + limit by omega) (by omega)

/-! ## What a rehearsal keeps -/

/-- A rehearsal in which nothing has happened. -/
def start (p : Poller ρ) (script : Script) : Rehearsal ρ := { poller := p, script := script }

/-- What a rehearsal leads to. -/
def after (r : Rehearsal ρ) (steps : List (Step ρ)) : Rehearsal ρ :=
  steps.foldl (fun r s => (r.step s).1) r

/-- What a call of the owner makes of a poller. -/
inductive Owned (p : Poller ρ) : Poller ρ → Prop where
  | submit (request : ρ) : Owned p (p.submit request).1
  | cancel : Owned p p.cancel
  | dispose : Owned p p.dispose
  | drop : Owned p p.drop

/-- What holds of a rehearsal whatever happens, if it does at first. -/
structure Kept (motive : Rehearsal ρ → Prop) : Prop where
  deliver : ∀ r now, motive r → motive (r.deliver now)
  turn : ∀ r r' now, Delivered now r → r.turn now = some r' → motive r → motive r'
  owner : ∀ r p, Owned r.poller p → motive r → motive { r with poller := p }
  /-- Neither the clock nor what entries were made matters. -/
  clock : ∀ r now noted shown, motive r →
    motive { r with now := now, noted := noted, shown := shown }

namespace Kept

/-- What answers, turns of the task and calls of the owner keep of a poller. -/
theorem of_poller {motive : Poller ρ → Prop} (hanswer : ∀ p a, motive p → motive (p.answer a))
    (hturn : ∀ now p p', Turn now p p' → motive p → motive p')
    (howner : ∀ p p', Owned p p' → motive p → motive p') :
    Kept (fun r : Rehearsal ρ => motive r.poller) where
  deliver _ now h := deliver_induction motive hanswer now h
  turn r r' now hd ht h := by
    rw [turn_eq, deliver_of_delivered hd] at ht
    obtain ⟨p, hp, rfl⟩ := Option.map_eq_some_iff.1 ht
    rw [poller_receiveAll]
    exact hturn now _ _ (turn_eq_some hp) h
  owner _ _ ho h := howner _ _ ho h
  clock _ _ _ _ h := h

variable {motive : Rehearsal ρ → Prop}

theorem rest (h : Kept motive) (hr : motive r) (now : Nat) : motive (r.rest now) := by
  have hturns : motive (Schedule.runTurns (Rehearsal.turn now) (r.poller.turnBound now) r) := by
    refine Schedule.runTurns_induction motive (fun r r' ht hr => ?_) _ hr
    have ht' : (r.deliver now).turn now = some r' := by rwa [turn_eq, deliver_deliver, ← turn_eq]
    exact h.turn _ _ now (delivered_deliver now r) ht' (h.deliver r now hr)
  exact h.clock _ now _ _ (h.deliver _ now hturns)

theorem advance (h : Kept motive) (hr : motive r) (ms : Nat) : motive (r.advance ms) :=
  Schedule.passTime_induction motive (fun now _ hr => h.rest hr now) ms r.now (h.rest hr r.now)

theorem waitUntil (h : Kept motive) (hr : motive r) (target limit : Nat) :
    motive (r.waitUntil target limit).1 := by
  induction limit generalizing r with
  | zero => exact h.clock r target _ _ hr
  | succ limit ih =>
    unfold Rehearsal.waitUntil
    split
    · exact hr
    · split
      · split
        · exact ih (h.rest hr _)
        · exact h.clock r target _ _ hr
      · exact h.clock r target _ _ hr

theorem waitTerminal (h : Kept motive) (hr : motive r) (limit : Nat) :
    motive (r.waitTerminal limit).1 := by
  unfold Rehearsal.waitTerminal
  split
  · exact hr
  · split
    · exact hr
    · exact h.waitUntil (h.rest hr _) _ _

theorem act (h : Kept motive) (hr : motive r) (a : Action ρ) : motive (r.act a).1 := by
  unfold Rehearsal.act
  split
  · exact h.advance hr _
  · exact hr
  · split
    · exact hr
    · split
      · exact h.owner r _ (.submit _) hr
      · refine List.foldlRecOn _ _ (motive := fun p => motive { r with poller := p }) hr ?_
        intro p hp _ _
        exact h.owner { r with poller := p } _ .cancel hp
      · exact h.owner r _ .dispose hr
      · exact h.owner r _ .drop hr
      · exact h.owner _ _ .drop (h.rest (h.owner r _ .dispose hr) _)
      · exact h.waitTerminal hr _
      · exact hr
      · exact hr

theorem step (h : Kept motive) (hr : motive r) (s : Step ρ) : motive (r.step s).1 := by
  have ha := h.act hr s.action
  have hs : motive (if s.race then (r.act s.action).1
      else (r.act s.action).1.rest (r.act s.action).1.now) := by
    split
    · exact ha
    · exact h.rest ha _
  exact h.clock _ _ _ _ hs

theorem after (h : Kept motive) (hr : motive r) (steps : List (Step ρ)) :
    motive (r.after steps) := by
  refine List.foldlRecOn steps _ hr ?_
  intro r hr s _
  exact h.step hr s

end Kept

theorem Owned.ticking (h : Owned p p') (hk : Ticking p) : Ticking p' := by
  cases h with
  | submit request =>
    unfold Poller.submit
    split
    · exact hk
    · exact fun t ht => by cases ht
  | cancel =>
    unfold Poller.cancel
    split <;> exact hk
  | dispose | drop => exact hk

theorem kept_ticking : Kept (fun r : Rehearsal ρ => Ticking r.poller) :=
  .of_poller (fun _ a hk => ticking_answer hk a) (fun _ _ _ h hk => h.ticking hk)
    fun _ _ h hk => h.ticking hk

/-- Time that passes after other time passes with it. -/
theorem advance_advance (hk : Ticking r.poller) (m n : Nat) :
    (r.advance m).advance n = r.advance (m + n) := by
  have hr : AtRest r.now (r.rest r.now) := atRest_rest hk r.now
  have first : ∀ n, Schedule.everyInstant rest n r.now r =
      Schedule.everyInstant rest n r.now (r.rest r.now) :=
    Schedule.everyInstant_congr hr.rest_eq.symm
  rw [advance_eq (kept_ticking.advance hk m), advance_eq hk, advance_eq hk, now_everyInstant,
    first m, first (m + n), restful.everyInstant_everyInstant hr (Nat.le_refl _)]

end Rehearsal

end Poller

end BackendMonitor
