import BackendMonitor.Proofs.Debounce.Run

/-!
# The end of a pipeline

A pipeline that was torn down settles nothing more, whatever was in its queue, and however long ago
a window was over: updates are not accepted any longer, and the task ends at its next turn.

* `turn_of_disposed`: all that a turn does then;
* `Pipeline.Over`: what is left of a pipeline that was torn down, which everything that happens
  keeps;
* `Run.SettlesNothing`: what becomes of a run that is torn down, and
  `Run.settles_nothing_after_teardown`: so it does in every run.
-/

namespace BackendMonitor.Debounce

variable {α : Type}

namespace Pipeline

/-- A task that runs ends, whatever it has to do. -/
theorem turn_of_disposed [BEq α] {p : Pipeline α} (hd : p.disposed = true) (now : Nat) :
    p.turn now = if p.running then some { p with running := false } else none := by
  unfold turn
  rw [if_pos hd]
  cases p.running <;> rfl

/-! ## What is left -/

/-- The pipeline `p` was torn down, and `p'` is what came of it: nothing has changed but whether the
owner still holds it, and whether its task runs. -/
structure Over (p p' : Pipeline α) : Prop where
  disposed : p.disposed = true
  pipeline : p' = { p with held := p'.held, running := p'.running }
  held : p'.held = true → p.held = true
  running : p'.running = true → p.running = true

variable {p p' : Pipeline α}

theorem Over.refl (hd : p.disposed = true) : Over p p := ⟨hd, rfl, id, id⟩

theorem Over.disposed' (h : Over p p') : p'.disposed = true := by
  rw [h.pipeline]
  exact h.disposed

theorem Over.settled (h : Over p p') : p'.settled = p.settled := by
  rw [h.pipeline]

theorem Over.pendingSince (h : Over p p') : p'.pendingSince = p.pendingSince := by
  rw [h.pipeline]

variable [BEq α]

/-- What is left stays as it is, whatever happens. -/
theorem Over.act (h : Over p p') (now : Nat) (e : Event α) : Over p (e.act now p') := by
  cases e with
  | update value =>
    rw [show Event.act now p' (.update value) = p' from update_of_disposed h.disposed' value]
    exact h
  | dispose =>
    rw [show Event.act now p' .dispose = p' from dispose_of_disposed h.disposed']
    exact h
  | drop =>
    rw [show Event.act now p' .drop = _ from drop_of_disposed h.disposed']
    exact ⟨h.disposed, by rw [h.pipeline], fun hh => (by cases hh), h.running⟩
  | pass => exact h
  | turn =>
    rw [show Event.act now p' .turn = (p'.turn now).getD p' from rfl,
      turn_of_disposed h.disposed']
    split
    · exact ⟨h.disposed, by rw [Option.getD_some, h.pipeline], h.held, fun hr => by cases hr⟩
    · exact h

/-- A task that takes a turn does not run any longer. -/
theorem Over.not_running_of_turn (h : Over p p') (now : Nat) :
    (Event.act now p' .turn).running = false := by
  rw [show Event.act now p' .turn = (p'.turn now).getD p' from rfl, turn_of_disposed h.disposed']
  cases hr : p'.running with
  | true => rfl
  | false => exact hr

/-- While the owner still holds a pipeline that was torn down, no clock of a burst runs. -/
def Cleared (p : Pipeline α) : Prop :=
  p.disposed = true → p.held = true → p.pendingSince = none

theorem Cleared.act (h : Cleared p) (now : Nat) (e : Event α) : Cleared (e.act now p) := by
  intro hd hh
  cases hp : p.disposed with
  | true =>
    have ho := (Over.refl hp).act now e
    exact ho.pendingSince.trans (h hp (ho.held hh))
  | false =>
    rw [e.disposed_act, hp, Bool.false_or] at hd
    cases e with
    | dispose =>
      rw [show Event.act now p .dispose = _ from dispose_of_not_disposed hp]
    | drop => cases hh
    | _ => cases hd

end Pipeline

open Pipeline

namespace Run

variable {r : Run α}

/-! ## Runs -/

variable [BEq α]

theorem over_after (hd : r.pipeline.disposed = true) (es : List (Event α)) :
    Over r.pipeline (r.after es).pipeline ∧ (r.after es).accepted = r.accepted := by
  refine List.foldlRecOn es step
    (motive := fun r' => Over r.pipeline r'.pipeline ∧ r'.accepted = r.accepted)
    ⟨.refl hd, rfl⟩ ?_
  rintro r' ⟨h, ha⟩ e -
  refine ⟨h.act r'.now e, ?_⟩
  have he : e.accepted? r'.now r'.pipeline = none := by
    cases e with
    | update value => exact if_pos h.disposed'
    | _ => rfl
  rw [← ha, step, he]
  exact List.append_nil _

/-- What is left after one of some events stays as it is. -/
theorem over_after_of_mem (hd : r.pipeline.disposed = true) {es : List (Event α)} {e : Event α}
    (he : e ∈ es) :
    ∃ now p, Over r.pipeline p ∧ Over (e.act now p) (r.after es).pipeline := by
  obtain ⟨before, rest, rfl⟩ := List.append_of_mem he
  have hb := (over_after hd before).1
  have hd' := (hb.act (r.after before).now e).disposed'
  refine ⟨(r.after before).now, (r.after before).pipeline, hb, ?_⟩
  rw [after_append]
  exact (over_after (r := (r.after before).step e) hd' rest).1

/-- The task is over after its next turn, and none is started anew. -/
theorem not_running_after (hd : r.pipeline.disposed = true) {es : List (Event α)}
    (ht : .turn ∈ es) : (r.after es).pipeline.running = false := by
  obtain ⟨now, p, hp, ho⟩ := over_after_of_mem hd ht
  have hn := hp.not_running_of_turn now
  exact Bool.eq_false_iff.2 fun hr => Bool.eq_false_iff.1 hn (ho.running hr)

/-- Nobody holds a pipeline that was dropped. -/
theorem not_held_after (hd : r.pipeline.disposed = true) {es : List (Event α)} (he : .drop ∈ es) :
    (r.after es).pipeline.held = false := by
  obtain ⟨now, p, -, ho⟩ := over_after_of_mem hd he
  exact Bool.eq_false_iff.2 fun hh => Bool.false_ne_true (ho.held hh)

theorem cleared_after (initial : α) (window : Nat) (es : List (Event α)) :
    Cleared ((start initial window).after es).pipeline :=
  List.foldlRecOn es step (motive := fun r => Cleared r.pipeline) (fun _ _ => rfl)
    fun r h e _ => h.act r.now e

/-- What becomes of a run that is torn down by `e`, while `more` happens. -/
structure SettlesNothing (r : Run α) (e : Event α) (more : List (Event α)) : Prop where
  /-- What has settled stays as it was, and observers are told of nothing. -/
  settled : (r.after (e :: more)).pipeline.settled = r.pipeline.settled
  accepted : (r.after (e :: more)).accepted = r.accepted
  update : ∀ now value, let p' := (r.after (e :: more)).pipeline
    p'.update now value = p'
  dispose : (r.after (e :: more)).pipeline.dispose = (r.after (e :: more)).pipeline
  /-- While the owner still holds the pipeline no clock of a burst runs. -/
  pendingSince : e = .dispose → r.pipeline.held = true →
    (r.after (e :: more)).pipeline.pendingSince = none
  /-- A task that runs ends at its next turn. -/
  turn : ∀ now, let p' := (r.after (e :: more)).pipeline
    p'.turn now = if p'.running then some { p' with running := false } else none
  ended : .turn ∈ more → (r.after (e :: more)).pipeline.running = false
  /-- When the owner has let go of the pipeline, the observers are alone as soon as the task has
  ended. -/
  closed : .drop ∈ e :: more → let p' := (r.after (e :: more)).pipeline
    p'.closed = !p'.running

/-- From the moment at which a pipeline is torn down, whatever had happened to it, and whatever the
owner and the task do from then on, in whatever order: nothing settles. -/
theorem settles_nothing_after_teardown (initial : α) (window : Nat) (es : List (Event α))
    {e : Event α} (he : e.isTeardown = true) (more : List (Event α)) :
    SettlesNothing ((start initial window).after es) e more := by
  have hcleared := cleared_after initial window es
  generalize (start initial window).after es = r at hcleared ⊢
  have hd : (r.step e).pipeline.disposed = true := by
    rw [show (r.step e).pipeline = e.act r.now r.pipeline from rfl, e.disposed_act, he,
      Bool.or_true]
  obtain ⟨ho, ha⟩ := over_after hd more
  have hs : (r.step e).pipeline.settled = r.pipeline.settled ∧
      (r.step e).accepted = r.accepted := by
    cases e with
    | dispose => exact ⟨settled_dispose, List.append_nil _⟩
    | drop => exact ⟨rfl, List.append_nil _⟩
    | _ => cases he
  refine {
    settled := ho.settled.trans hs.1
    accepted := ha.trans hs.2
    update := fun now value => update_of_disposed ho.disposed' value
    dispose := dispose_of_disposed ho.disposed'
    turn := turn_of_disposed ho.disposed'
    ended := not_running_after hd
    pendingSince := ?_, closed := fun hdrop => ?_ }
  · rintro rfl hh
    refine ho.pendingSince.trans (hcleared.act r.now .dispose hd ?_)
    show r.pipeline.dispose.held = true
    unfold Pipeline.dispose
    split <;> exact hh
  · have hn : (r.after (e :: more)).pipeline.held = false := by
      rcases List.mem_cons.1 hdrop with rfl | hm
      · exact Bool.eq_false_iff.2 fun hh => Bool.false_ne_true (ho.held hh)
      · exact not_held_after hd hm
    simp only [Pipeline.closed, hn, Bool.not_false, Bool.true_and]

/-- Updates in the queue, and a window that is over. -/
def overdue : List (Event String) :=
  [.update "a", .turn, .pass 400, .update "b"]

/-- What was accepted and is long due does not settle, though the task runs. -/
theorem settles_nothing_after_teardown_overdue :
    let p := ((start "" 300).after overdue).pipeline
    let p' := (((start "" 300).after overdue).after
      [.dispose, .update "c", .turn, .pass 1000, .turn, .drop]).pipeline
    (Event.dispose : Event String).isTeardown = true ∧
      p.latest = some ⟨"a", 0⟩ ∧ p.queue = [⟨"b", 400⟩] ∧ p.pendingSince = some 0 ∧
      p'.settled.published = [] ∧ p'.pendingSince = none ∧ p'.closed = true := by
  intro p p'
  have h := settles_nothing_after_teardown "" 300 overdue (e := .dispose) rfl
    [.update "c", .turn, .pass 1000, .turn, .drop]
  refine ⟨rfl, by decide, by decide, by decide, ?_, h.pendingSince rfl (by decide), ?_⟩
  · exact (congrArg Watched.published h.settled).trans (by decide)
  · exact (h.closed (by decide)).trans (by rw [h.ended (by decide)]; rfl)

end Run

end BackendMonitor.Debounce
