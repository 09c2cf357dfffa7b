import BackendMonitor.Proofs.Poller.Reported

/-!
# Canceling decides nothing

Two rehearsals with the same script but for the replies to requests to cancel, and with the same
steps but for these requests (`Rehearsal.outline`), look the same at every point but for what
concerns canceling (`Rehearsal.Similar`). So how a job ends, and when, is a matter of the polls
(`Rehearsal.LookAlike`, `Rehearsal.cancelling_decides_nothing`).
-/

namespace BackendMonitor

namespace Poller

variable {ρ : Type}

theorem answer_congr {a : Answer} (ha : a.isCancel = false) {p q : Poller ρ}
    (h : p.calm = q.calm) : (p.answer a).calm = (q.answer a).calm := by
  rw [← calm_answer ha p, h, calm_answer ha q]

/-- Of answers that arrive together, those to requests to cancel are not seen. -/
theorem answers_congr (as : List (Nat × Answer)) {p q : Poller ρ} (h : p.calm = q.calm) :
    ((as.filter (!·.2.isCancel)).foldl (fun p a => p.answer a.2) p).calm =
      (as.foldl (fun p a => p.answer a.2) q).calm := by
  induction as generalizing p q with
  | nil => exact h
  | cons a as ih =>
    cases ha : a.2.isCancel with
    | true =>
      rw [List.filter_cons_of_neg (by simp [ha]), List.foldl_cons]
      exact ih (h.trans (calm_answer_of_isCancel ha q).symm)
    | false =>
      rw [List.filter_cons_of_pos (by simp [ha]), List.foldl_cons, List.foldl_cons]
      exact ih (answer_congr ha h)

namespace Rehearsal

variable {now : Nat} {r r' : Rehearsal ρ}

/-- The rehearsal as it looks but for all that concerns canceling, and for what entries were
made. -/
def calm (r : Rehearsal ρ) : Rehearsal ρ where
  poller := r.poller.calm
  script := { r.script with cancels := [] }
  now := r.now
  arriving := r.arriving.filter (!·.2.isCancel)

/-! ## The server -/

/-- Answers to requests to cancel are not seen. -/
theorem calm_deliver (now : Nat) (r : Rehearsal ρ) :
    (r.calm.deliver now).calm = (r.deliver now).calm := by
  have hf : ∀ f : Nat × Answer → Bool, (r.arriving.filter (!·.2.isCancel)).filter f =
      (r.arriving.filter f).filter (!·.2.isCancel) := fun f => by
    rw [List.filter_filter, List.filter_filter]
    exact List.filter_congr fun _ _ => Bool.and_comm _ _
  have hff : ∀ as : List (Nat × Answer), (as.filter (!·.2.isCancel)).filter (!·.2.isCancel) =
      as.filter (!·.2.isCancel) := fun as => by
    simp
  simp only [deliver, calm, hf, hff, answers_congr _ r.poller.calm_calm]

theorem deliver_congr {r₁ r₂ : Rehearsal ρ} (h : r₁.calm = r₂.calm) :
    (r₁.deliver now).calm = (r₂.deliver now).calm := by
  rw [← calm_deliver, h, calm_deliver]

theorem calm_receive {c : Call ρ} (hc : c.isCancel = false) (now : Nat) (r : Rehearsal ρ) :
    (r.calm.receive now c).calm = (r.receive now c).calm := by
  cases c with
  | submit request => simp [receive, calm]
  | status jobId => simp [receive, calm]
  | cancel jobId => cases hc

/-- What the server does when it is asked to cancel is not seen. -/
theorem calm_receive_cancel (now : Nat) (jobId : String) (r : Rehearsal ρ) :
    (r.receive now (.cancel jobId)).calm = r.calm := by
  have ha : ∀ reply : Reply Unit,
      (arrival now .cancelled reply).filter (!·.2.isCancel) = [] := by
    intro reply
    unfold arrival
    cases reply.result <;> rfl
  simp [receive, calm, ha]

theorem receiveAll_congr {made : List (Nat × Call ρ)} (hm : ∀ c ∈ made, c.2.isCancel = false)
    {r₁ r₂ : Rehearsal ρ} (h : r₁.calm = r₂.calm) :
    (r₁.receiveAll now made).calm = (r₂.receiveAll now made).calm := by
  have hm : ∀ c ∈ made.reverse, c.2.isCancel = false := fun c hc => hm c (List.mem_reverse.1 hc)
  unfold receiveAll
  generalize made.reverse = made at hm
  induction made generalizing r₁ r₂ with
  | nil => exact h
  | cons c made ih =>
    have hc := hm c List.mem_cons_self
    rw [List.foldl_cons, List.foldl_cons]
    refine ih ?_ fun c' hc' => hm c' (List.mem_cons_of_mem _ hc')
    rw [← calm_receive hc now r₁, h, calm_receive hc]

/-! ## Rest -/

theorem delivered_calm (h : Delivered now r) : Delivered now r.calm :=
  fun a ha => h a (List.mem_filter.1 ha).1

/-- A turn has to do with canceling, and is not seen, or it leads to what it leads to from the look
of the rehearsal. -/
theorem turn_alike (h : Delivered now r) :
    (∃ r', r.turn now = some r' ∧ r'.calm = r.calm) ∨
      (r.turn now).map calm = (r.calm.turn now).map calm := by
  cases r.poller.alike now with
  | @unseen p' ht hc hm =>
    have hp : ({ r with poller := p' } : Rehearsal ρ).calm = r.calm := by simp [calm, hc]
    refine .inl ?_
    rcases hm with hm | ⟨jobId, hm⟩
    · have hm : p'.calls = [] ++ r.poller.calls := hm
      exact ⟨_, turn_of_some h ht hm, hp⟩
    · have hm : p'.calls = [(now, .cancel jobId)] ++ r.poller.calls := hm
      exact ⟨_, turn_of_some h ht hm, (calm_receive_cancel now jobId _).trans hp⟩
  | none ht ht' =>
    rw [turn_of_none h ht, turn_of_none (delivered_calm h) ht']
    exact .inr rfl
  | @seen p' q' made ht ht' hc hp hq hm =>
    rw [turn_of_some h ht hp, turn_of_some (delivered_calm h) ht' hq]
    refine .inr (congrArg some (receiveAll_congr hm ?_))
    simp [calm, hc]

theorem deliveredTurn_alike (h : Ready now r) :
    (∃ r', r.deliveredTurn now = some r' ∧ r'.calm = r.calm) ∨
      (r.deliveredTurn now).map calm = (r.calm.deliveredTurn now).map calm := by
  unfold deliveredTurn
  rcases turn_alike h.delivered with ⟨r', ht, hc⟩ | ht
  · refine .inl ⟨r'.deliver now, by rw [ht]; rfl, (deliver_congr hc).trans ?_⟩
    rw [deliver_of_delivered h.delivered]
  · refine .inr ?_
    have hcomp : ∀ o : Option (Rehearsal ρ), (o.map (·.deliver now)).map calm =
        (o.map calm).map fun r => (r.deliver now).calm := fun o => by
      cases o with
      | none => rfl
      | some r => exact congrArg some (calm_deliver now r).symm
    rw [hcomp, hcomp, ht]

/-- Rehearsals that look the same look the same at rest. -/
theorem rest_congr {r₁ r₂ : Rehearsal ρ} (h₁ : Ticking r₁.poller) (h₂ : Ticking r₂.poller)
    (h : r₁.calm = r₂.calm) (now : Nat) : (r₁.rest now).calm = (r₂.rest now).calm := by
  -- they may take different numbers of turns, and each comes to rest within its own bound
  have hr := (tiring now).view_runTurns (fun _ hr => deliveredTurn_alike hr)
    (.of_ticking h₁ now) (.of_ticking h₂ now) (deliver_congr h) (load_deliver_le now r₁)
    (load_deliver_le now r₂)
  rw [rest_eq, rest_eq]
  exact congrArg (fun r : Rehearsal ρ => { r with now := now }) hr

/-! ## Steps -/

/-- Two rehearsals look the same. -/
structure Similar (r₁ r₂ : Rehearsal ρ) : Prop where
  calm : r₁.calm = r₂.calm
  left : Ticking r₁.poller
  right : Ticking r₂.poller

namespace Similar

variable {r₁ r₂ r₃ : Rehearsal ρ}

theorem refl (h : Ticking r.poller) : Similar r r := ⟨rfl, h, h⟩

theorem symm (h : Similar r₁ r₂) : Similar r₂ r₁ := ⟨h.calm.symm, h.right, h.left⟩

theorem trans (h : Similar r₁ r₂) (h' : Similar r₂ r₃) : Similar r₁ r₃ :=
  ⟨h.calm.trans h'.calm, h.left, h'.right⟩

theorem now_eq (h : Similar r₁ r₂) : r₁.now = r₂.now :=
  congrArg (·.now) h.calm

theorem poller_calm (h : Similar r₁ r₂) : r₁.poller.calm = r₂.poller.calm :=
  congrArg (·.poller) h.calm

theorem held_eq (h : Similar r₁ r₂) : r₁.poller.held = r₂.poller.held :=
  congrArg (·.held) h.poller_calm

/-- The clock of both is set; what entries were made is not seen. -/
theorem clock (h : Similar r₁ r₂) (now n₁ n₂ m₁ m₂ : Nat) :
    Similar { r₁ with now := now, noted := n₁, shown := m₁ }
      { r₂ with now := now, noted := n₂, shown := m₂ } :=
  ⟨congrArg (fun r : Rehearsal ρ => { r with now := now }) h.calm, h.left, h.right⟩

theorem rest (h : Similar r₁ r₂) (now : Nat) : Similar (r₁.rest now) (r₂.rest now) :=
  ⟨rest_congr h.left h.right h.calm now, kept_ticking.rest h.left now, kept_ticking.rest h.right now⟩

theorem restNow (h : Similar r₁ r₂) : Similar (r₁.rest r₁.now) (r₂.rest r₂.now) := by
  rw [h.now_eq]
  exact h.rest _

theorem withPoller {p₁ p₂ : Poller ρ} (h : Similar r₁ r₂) (h₁ : Ticking p₁) (h₂ : Ticking p₂)
    (hp : p₁.calm = p₂.calm) :
    Similar { r₁ with poller := p₁ } { r₂ with poller := p₂ } := by
  refine ⟨?_, h₁, h₂⟩
  show ({ r₁.calm with poller := p₁.calm } : Rehearsal ρ) = { r₂.calm with poller := p₂.calm }
  rw [h.calm, hp]

/-- What the owner does to both. -/
theorem owner {p₁ p₂ : Poller ρ} (h : Similar r₁ r₂) (h₁ : Owned r₁.poller p₁)
    (h₂ : Owned r₂.poller p₂) (hp : p₁.calm = p₂.calm) :
    Similar { r₁ with poller := p₁ } { r₂ with poller := p₂ } :=
  h.withPoller (h₁.ticking h.left) (h₂.ticking h.right) hp

theorem advance (h : Similar r₁ r₂) (ms : Nat) : Similar (r₁.advance ms) (r₂.advance ms) := by
  -- an answer to a request to cancel is due in one of them only, so no instant is left out
  rw [advance_eq h.left, advance_eq h.right, h.now_eq]
  generalize r₂.now = now
  induction ms generalizing now r₁ r₂ with
  | zero => exact h.rest now
  | succ ms ih => exact ih (h.rest now) (now + 1)

theorem waited_eq (h : Similar r₁ r₂) :
    r₁.poller.waited?.isSome = r₂.poller.waited?.isSome := by
  have hw : ∀ p : Poller ρ, p.waited?.isSome =
      (p.calm.disposed || p.calm.phase.isTerminal) := by
    intro p
    have hp : p.calm.phase.isTerminal = p.phase.isTerminal := p.phase.isTerminal_calm
    rw [hp, waited?]
    show _ = (p.disposed || p.phase.isTerminal)
    cases p.disposed <;> cases p.phase.isTerminal <;> rfl
  rw [hw, hw, h.poller_calm]

theorem waitEach (h : Similar r₁ r₂) (target n : Nat) :
    Similar (r₁.waitEach target n) (r₂.waitEach target n) := by
  induction n generalizing r₁ r₂ with
  | zero =>
    unfold Rehearsal.waitEach
    rw [h.waited_eq]
    split
    · exact h
    · exact h.clock _ _ _ _ _
  | succ n ih =>
    unfold Rehearsal.waitEach
    rw [h.waited_eq, h.now_eq]
    split
    · exact h
    · exact ih (h.rest _)

theorem waitTerminal (h : Similar r₁ r₂) (limit : Nat) :
    Similar (r₁.waitTerminal limit).1 (r₂.waitTerminal limit).1 := by
  have waited : ∀ r : Rehearsal ρ, limit = 0 ∨ r.poller.waited?.isSome = true →
      (r.waitTerminal limit).1 = r := by
    intro r hr
    unfold Rehearsal.waitTerminal
    cases hw : r.poller.waited? with
    | some w => rfl
    | none => simp_all
  by_cases hl : limit = 0 ∨ r₁.poller.waited?.isSome = true
  · rw [waited r₁ hl, waited r₂ (h.waited_eq ▸ hl)]
    exact h
  · simp only [not_or, Bool.not_eq_true, Option.isSome_eq_false_iff, Option.isNone_iff_eq_none] at hl
    have hw := h.waited_eq
    rw [hl.2] at hw
    have hw₂ : r₂.poller.waited? = none := by simpa using hw.symm
    rw [waitTerminal_eq h.left (Nat.pos_of_ne_zero hl.1) hl.2,
      waitTerminal_eq h.right (Nat.pos_of_ne_zero hl.1) hw₂, h.now_eq]
    exact (h.rest _).waitEach _ _

/-- To ask to cancel, ever so often, is not seen. -/
theorem cancel (h : Ticking r.poller) (times : Nat) : Similar r (r.act (.cancel times)).1 := by
  unfold Rehearsal.act
  simp only
  split
  · exact refl h
  · refine List.foldlRecOn (List.replicate times ()) (fun p _ => p.cancel)
      (motive := fun p => Similar r { r with poller := p }) (refl h) ?_
    intro p hp _ _
    have hc : Ticking p.cancel := Owned.cancel.ticking hp.right
    exact hp.trans ((refl h).withPoller hp.right hc (calm_cancel p).symm)

/-- What the owners of both do, while they hold them. -/
theorem whileHeld (h : Similar r₁ r₂) {x₁ x₂ : Rehearsal ρ × Option Returned}
    (hx : Similar x₁.1 x₂.1) :
    Similar (if !r₁.poller.held then (r₁, none) else x₁).1
      (if !r₂.poller.held then (r₂, none) else x₂).1 := by
  rw [h.held_eq]
  split
  · exact h
  · exact hx

theorem submit (h : Similar r₁ r₂) (request : ρ) :
    Similar { r₁ with poller := (r₁.poller.submit request).1 }
      { r₂ with poller := (r₂.poller.submit request).1 } := by
  refine h.owner (.submit request) (.submit request) ?_
  rw [← calm_submit, h.poller_calm, calm_submit]

theorem dispose (h : Similar r₁ r₂) :
    Similar { r₁ with poller := r₁.poller.dispose } { r₂ with poller := r₂.poller.dispose } :=
  h.owner .dispose .dispose (congrArg Poller.dispose h.poller_calm)

theorem drop (h : Similar r₁ r₂) :
    Similar { r₁ with poller := r₁.poller.drop } { r₂ with poller := r₂.poller.drop } :=
  h.owner .drop .drop (congrArg Poller.drop h.poller_calm)

/-- Both owners do the same, and may ask to cancel. -/
theorem act (h : Similar r₁ r₂) (a : Action ρ) : Similar (r₁.act a).1 (r₂.act a).1 := by
  cases a with
  | advance ms => exact h.advance ms
  | look => exact h
  | cancel times => exact (cancel h.left times).symm.trans (h.trans (cancel h.right times))
  | submit request => exact h.whileHeld (h.submit request)
  | dispose => exact h.whileHeld h.dispose
  | drop => exact h.whileHeld h.drop
  | shutdown => exact h.whileHeld h.dispose.restNow.drop
  | waitTerminal limit => exact h.whileHeld (h.waitTerminal limit)

end Similar

/-! ## Requests to cancel -/

/-- What actions lead to, if the task only runs as time passes. -/
def perform (r : Rehearsal ρ) (actions : List (Action ρ)) : Rehearsal ρ :=
  actions.foldl (fun r a => (r.act a).1) r

/-- An action and those after it. Time that passes after other time passes with it. -/
def Action.andThen : Action ρ → List (Action ρ) → List (Action ρ)
  | .advance ms, .advance more :: actions => .advance (ms + more) :: actions
  | action, actions => action :: actions

/-- What a step comes to but for requests to cancel, and the actions after it. To let the task run
is to let no time pass. -/
def Step.outline (s : Step ρ) (actions : List (Action ρ)) : List (Action ρ) :=
  let actions := if s.race then actions else (Action.advance 0).andThen actions
  match s.action with
  | .cancel _ | .look => actions
  | action => action.andThen actions

/-- What steps come to but for requests to cancel. -/
def outline (steps : List (Step ρ)) : List (Action ρ) :=
  steps.foldr Step.outline []

theorem perform_andThen (h : Ticking r.poller) (a : Action ρ) (actions : List (Action ρ)) :
    r.perform (a.andThen actions) = (r.act a).1.perform actions := by
  unfold Action.andThen
  split
  · next ms more actions =>
    exact congrArg (fun r : Rehearsal ρ => r.perform actions) (advance_advance h ms more).symm
  · rfl

theorem Similar.perform {r₁ r₂ : Rehearsal ρ} (h : Similar r₁ r₂) (actions : List (Action ρ)) :
    Similar (r₁.perform actions) (r₂.perform actions) := by
  induction actions generalizing r₁ r₂ with
  | nil => exact h
  | cons a actions ih => exact ih (h.act a)

/-- After an action the task runs, unless the step is a race, and an entry is made. -/
theorem similar_run (h : Ticking r.poller) (s : Step ρ) (actions : List (Action ρ)) :
    Similar ((r.step s).1.perform actions) ((r.act s.action).1.perform
      (if s.race then actions else (Action.advance 0).andThen actions)) := by
  have ha : Ticking (r.act s.action).1.poller := kept_ticking.act h s.action
  have hentry : ∀ r' : Rehearsal ρ, Ticking r'.poller →
      Similar (r'.entry (r.act s.action).2).1 r' := fun r' hr => ⟨rfl, hr, hr⟩
  unfold Rehearsal.step
  simp only
  split
  · exact (hentry _ ha).perform actions
  · have hrun : ((r.act s.action).1.act (.advance 0)).1 =
        (r.act s.action).1.rest (r.act s.action).1.now := advance_zero ha
    rw [perform_andThen ha, hrun]
    exact (hentry _ (kept_ticking.rest ha _)).perform actions

theorem similar_step (h : Ticking r.poller) (s : Step ρ) (actions : List (Action ρ)) :
    Similar ((r.step s).1.perform actions) (r.perform (s.outline actions)) := by
  refine (similar_run h s actions).trans ?_
  unfold Step.outline
  simp only
  generalize (if s.race = true then actions else _) = actions
  split
  · next times ha => rw [ha]; exact (Similar.cancel h times).symm.perform actions
  · next ha => rw [ha]; exact (Similar.refl h).perform actions
  · next ha _ =>
    rw [perform_andThen h]
    exact (Similar.refl (kept_ticking.act h s.action)).perform actions

theorem similar_outline (h : Ticking r.poller) (steps : List (Step ρ)) :
    Similar (r.after steps) (r.perform (outline steps)) := by
  induction steps generalizing r with
  | nil => exact .refl h
  | cons s steps ih => exact (ih (kept_ticking.step h s)).trans (similar_step h s _)

/-- How two rehearsals look that differ in what concerns canceling, if the polls of both are answered
with `statuses`. -/
structure LookAlike (statuses : List (Reply JobSnapshot)) (r₁ r₂ : Rehearsal ρ) : Prop where
  now : r₁.now = r₂.now
  job : r₁.poller.state.value.job = r₂.poller.state.value.job
  error : r₁.poller.state.value.error = r₂.poller.state.value.error
  /-- They have made the same calls at the same instants but for those that cancel. -/
  calls : r₁.poller.calls.filter (!·.2.isCancel) = r₂.poller.calls.filter (!·.2.isCancel)
  /-- They are in the same phase, but that one may be cancelling where the other polls. -/
  calm : r₁.poller.phase.calm = r₂.poller.phase.calm
  /-- A terminal phase is the same for both. -/
  terminal : r₁.poller.phase.isTerminal = true ∨ r₂.poller.phase.isTerminal = true →
    r₁.poller.phase = r₂.poller.phase
  /-- It is that of a cancelled job only if a poll reported so. -/
  cancelled : ∀ r, r = r₁ ∨ r = r₂ → r.poller.phase = .cancelled → Reports statuses r.poller.taken

/-- Two rehearsals differ in when the owner asks to cancel and in how the server answers that, and
in nothing else. Then, at every point, they look alike. -/
theorem cancelling_decides_nothing (s : PollSettings) (h : 0 < s.intervalMs) (script : Script)
    (cancels : List (Reply Unit)) :
    ∃ p : Poller ρ, ofSettings s = .ok p ∧
      ∀ steps₁ steps₂ : List (Step ρ), outline steps₁ = outline steps₂ →
        LookAlike script.statuses ((start p script).after steps₁)
          ((start p { script with cancels := cancels }).after steps₂) := by
  obtain ⟨p, hp⟩ := ofSettings_of_pos (ρ := ρ) h
  refine ⟨p, hp, fun steps₁ steps₂ hsteps => ?_⟩
  have hk : Ticking p := ticking_of_ofSettings hp
  have hstart : Similar (start p script) (start p { script with cancels := cancels }) :=
    ⟨rfl, hk, hk⟩
  have hperform := hstart.perform (outline steps₁)
  have hsim : Similar ((start p script).after steps₁)
      ((start p { script with cancels := cancels }).after steps₂) :=
    ((similar_outline hk steps₁).trans (hsteps ▸ hperform)).trans (similar_outline hk steps₂).symm
  have hphase := congrArg (·.state.value.phase) hsim.poller_calm
  refine {
    now := hsim.now_eq
    job := congrArg (·.state.value.job) hsim.poller_calm
    error := congrArg (·.state.value.error) hsim.poller_calm
    calls := congrArg (·.calls) hsim.poller_calm
    calm := hphase
    terminal := ?_, cancelled := ?_ }
  · rintro (ht | ht)
    · exact PollerPhase.eq_of_calm_eq hphase ht
    · exact (PollerPhase.eq_of_calm_eq hphase.symm ht).symm
  · rintro r (rfl | rfl)
    · exact reports_of_cancelled hp _ steps₁
    · exact reports_of_cancelled hp _ steps₂

/-- The job runs at the first poll, and at the second one it has been cancelled. -/
def cancelledElsewhere : Script where
  submission := ⟨some (.ok "job-1"), 0⟩
  statuses :=
    [⟨some (.ok { jobId := "job-1", status := .running }), 0⟩,
      ⟨some (.ok { jobId := "job-1", status := .cancelled }), 0⟩]

/-- The owner asks to cancel after the first poll. -/
def asking : List (Step String) :=
  [{ action := .submit "scan" }, { action := .advance 1000 }, { action := .cancel 1 },
    { action := .advance 1000 }]

/-- The owner only waits. -/
def waiting : List (Step String) :=
  [{ action := .submit "scan" }, { action := .advance 2000 }]

/-- A request to cancel that fails, and none at all: the job is over at the second poll. -/
theorem cancelling_decides_nothing_elsewhere :
    (0 : UInt64) < ({} : PollSettings).intervalMs ∧ outline asking = outline waiting ∧
      ∃ p : Poller String, ofSettings {} = .ok p ∧
        let refused := { cancelledElsewhere with cancels := [⟨some (.error ⟨.network, "reset"⟩), 10⟩] }
        let r₁ := (start p refused).after asking
        let r₂ := (start p cancelledElsewhere).after waiting
        r₁.poller.cancelCalls = 1 ∧ r₂.poller.cancelCalls = 0 ∧ r₁.now = r₂.now ∧
          r₁.poller.phase = .cancelled ∧ r₁.poller.phase = r₂.poller.phase ∧
          Reports cancelledElsewhere.statuses r₁.poller.taken := by
  obtain ⟨p, hp, h⟩ := cancelling_decides_nothing (ρ := String) {} (by decide)
    { cancelledElsewhere with cancels := [⟨some (.error ⟨.network, "reset"⟩), 10⟩] } []
  have halike := h asking waiting rfl
  refine ⟨by decide, rfl, p, hp, ?_⟩
  cases hp
  exact ⟨rfl, rfl, halike.now, rfl, halike.terminal (.inl rfl), halike.cancelled _ (.inl rfl) rfl⟩

end Rehearsal

end Poller

end BackendMonitor
