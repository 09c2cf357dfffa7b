import BackendMonitor.Proofs.Debounce.Turn
import Mathlib.Data.List.Induction

/-!
# Runs of a pipeline

A pipeline under a clock, with an owner and a task that act in any order; the task may be as late as
it likes. A run is the list of what happens (`Event`), and `Run.after` is what it leads to.

* `Pipeline.Follows`: how far the task has come with the updates that were accepted, which every
  step keeps;
* `Run.settles_last_when_quiet`: what settles is the last update, and only after a quiet window; and
  it does settle, as soon as the task runs after that.
-/

namespace BackendMonitor.Debounce

variable {α : Type}

/-! ## Events -/

/-- What can happen to a pipeline. -/
inductive Event (α : Type) where
  | update (value : α)
  | dispose
  | drop
  /-- The task takes a turn. -/
  | turn
  /-- Time passes, in milliseconds. -/
  | pass (ms : Nat)
deriving DecidableEq, Repr

namespace Event

/-- Whether an event is the end of the pipeline. -/
def isTeardown : Event α → Bool
  | .dispose | .drop => true
  | _ => false

/-- Whether the owner does nothing. -/
def isQuiet : Event α → Bool
  | .turn | .pass _ => true
  | _ => false

/-- How long an event takes. -/
def duration : Event α → Nat
  | .pass ms => ms
  | _ => 0

variable [BEq α]

/-- What becomes of a pipeline at the instant `now`. -/
def act (now : Nat) (p : Pipeline α) : Event α → Pipeline α
  | .update value => p.update now value
  | .dispose => p.dispose
  | .drop => p.drop
  | .turn => (p.turn now).getD p
  | .pass _ => p

/-- The update that is accepted. -/
def accepted? (now : Nat) (p : Pipeline α) : Event α → Option (Update α)
  | .update value => if p.disposed then none else some ⟨value, now⟩
  | _ => none

end Event

variable [BEq α]

/-- A pipeline under a clock, with the updates that were accepted, oldest first. -/
structure Run (α : Type) where
  pipeline : Pipeline α
  now : Nat := 0
  accepted : List (Update α) := []

namespace Run

/-- A pipeline to which nothing has happened. -/
def start (initial : α) (window : Nat) : Run α := { pipeline := .start initial window }

/-- One thing happens. -/
def step (r : Run α) (e : Event α) : Run α where
  pipeline := e.act r.now r.pipeline
  now := r.now + e.duration
  accepted := r.accepted ++ (e.accepted? r.now r.pipeline).toList

/-- What a run leads to. -/
def after (r : Run α) (es : List (Event α)) : Run α :=
  es.foldl step r

theorem after_append (r : Run α) (es fs : List (Event α)) :
    r.after (es ++ fs) = (r.after es).after fs :=
  List.foldl_append

end Run

/-! ## The last update -/

namespace Pipeline

/-- How far the task has come with the last of the updates that were accepted. -/
inductive Follows (now : Nat) (accepted : List (Update α)) (p : Pipeline α) : Prop where
  | queued (hp : p.pendingSince.isSome = true) (hq : p.queue ≠ [])
      (hl : accepted.getLast? = p.queue.getLast?)
  /-- The task has taken it, and waits for the end of its window. -/
  | waiting {u : Update α} (hp : p.pendingSince.isSome = true) (hq : p.queue = [])
      (hu : p.latest = some u) (hl : accepted.getLast? = some u)
  /-- It has settled after its window, if there was one. -/
  | settled (hp : p.pendingSince = none) (hq : p.queue = []) (hu : p.latest = none)
      (hl : ∀ u ∈ accepted.getLast?,
        u.acceptedAt + p.window ≤ now ∧ Same p.settled.value u.value)

variable {now : Nat} {accepted : List (Update α)} {p p' : Pipeline α}

theorem Follows.update (hd : p.disposed = false) (value : α) :
    Follows now (accepted ++ [⟨value, now⟩]) (p.update now value) := by
  rw [update_of_not_disposed hd]
  refine .queued (isSome_pendingSince_markPending hd) (List.append_ne_nil_of_right_ne_nil _ ?_) ?_
  · exact List.cons_ne_nil _ _
  · rw [List.getLast?_concat, List.getLast?_concat]

/-- As time passes, what has settled stays settled. -/
theorem Follows.mono (h : Follows now accepted p) {later : Nat} (hn : now ≤ later) :
    Follows later accepted p := by
  cases h with
  | queued hp hq hl => exact .queued hp hq hl
  | waiting hp hq hu hl => exact .waiting hp hq hu hl
  | settled hp hq hu hl =>
    exact .settled hp hq hu fun u h => ⟨Nat.le_trans (hl u h).1 hn, (hl u h).2⟩

/-- Every turn of a pipeline that was not torn down goes on with the last update. -/
theorem Turn.follows (h : Turn now p p') (hw : 0 < p.window) (hd : p.disposed = false)
    (hf : Follows now accepted p) : Follows now accepted p' := by
  cases h with
  | stop hr hd' => cases hd.symm.trans hd'
  | settleAtOnce hr _ hq hw' => omega
  | @take u queue hr _ hq _ =>
    cases hf with
    | queued hp hq' hl =>
      rw [markPending_of_pending (by exact hp)]
      cases queue with
      | nil => exact .waiting hp rfl rfl (by rw [hl, hq]; rfl)
      | cons v queue => exact .queued hp (List.cons_ne_nil _ _) (by rw [hl, hq]; rfl)
    | waiting hp hq' hu hl => rw [hq] at hq'; cases hq'
    | settled hp hq' hu hl => rw [hq] at hq'; cases hq'
  | @settle u hr _ hq hl hn =>
    cases hf with
    | queued hp hq' hl' => exact absurd hq hq'
    | @waiting v hp hq' hu hl' =>
      cases hl.symm.trans hu
      refine .settled rfl hq rfl fun v hv => ?_
      cases hl'.symm.trans hv
      exact ⟨hn, same_settle (by exact hd) u.value⟩
    | settled hp hq' hu hl' => cases hl.symm.trans hu

end Pipeline

open Pipeline

/-! ## Runs -/

/-- What every step keeps: until the pipeline is torn down its task runs, and follows the updates
that are accepted. -/
structure Sound (window : Nat) (r : Run α) : Prop where
  window : r.pipeline.window = window
  running : r.pipeline.disposed = false → r.pipeline.running = true
  follows : r.pipeline.disposed = false → Follows r.now r.accepted r.pipeline

variable {now window : Nat} {p : Pipeline α} {r : Run α}

/-! What no event changes, until the pipeline is torn down. -/

theorem Event.window_act (e : Event α) : (e.act now p).window = p.window := by
  cases e with
  | update value =>
    cases hd : p.disposed with
    | true => exact congrArg Pipeline.window (update_of_disposed hd value)
    | false => exact (congrArg Pipeline.window (update_of_not_disposed hd value)).trans (by simp)
  | dispose => simp only [act, Pipeline.dispose]; split <;> rfl
  | turn =>
    cases ht : p.turn now with
    | none => simp [act, ht]
    | some p' => simpa [act, ht] using (turn_eq_some ht).window_eq
  | drop | pass => rfl

theorem Event.disposed_act (e : Event α) :
    (e.act now p).disposed = (p.disposed || e.isTeardown) := by
  cases e with
  | update value =>
    rw [show (Event.update value).isTeardown = false from rfl, Bool.or_false]
    cases hd : p.disposed with
    | true => exact (congrArg Pipeline.disposed (update_of_disposed hd value)).trans hd
    | false =>
      refine (congrArg Pipeline.disposed (update_of_not_disposed hd value)).trans ?_
      rw [← hd]
      exact disposed_markPending
  | dispose => simp only [act, isTeardown, Pipeline.dispose]; split <;> simp_all
  | drop => exact (Bool.or_true _).symm
  | turn =>
    cases ht : p.turn now with
    | none => simp [act, isTeardown, ht]
    | some p' => simpa [act, isTeardown, ht] using (turn_eq_some ht).disposed_eq
  | pass => exact (Bool.or_false _).symm

theorem Event.running_act (e : Event α) (hd : (e.act now p).disposed = false) :
    (e.act now p).running = p.running := by
  rw [disposed_act, Bool.or_eq_false_iff] at hd
  cases e with
  | update value =>
    exact (congrArg Pipeline.running (update_of_not_disposed hd.1 value)).trans (by simp)
  | dispose | drop => cases hd.2
  | turn =>
    cases ht : p.turn now with
    | none => simp [act, ht]
    | some p' => simpa [act, ht] using (turn_eq_some ht).running_eq hd.1
  | pass => rfl

namespace Run

/-- A pipeline that is not torn down has a task that runs. -/
theorem running_after (initial : α) (window : Nat) (es : List (Event α)) :
    let p := ((start initial window).after es).pipeline
    p.disposed = false → p.running = true := by
  refine List.foldlRecOn es step
    (motive := fun r => r.pipeline.disposed = false → r.pipeline.running = true) ?_ ?_
  · exact fun _ => rfl
  · intro r h e _ hd
    refine (e.running_act hd).trans (h ?_)
    exact (Bool.or_eq_false_iff.1 (e.disposed_act.symm.trans hd)).1

theorem sound_step (hw : 0 < window) (hs : Sound window r) (e : Event α) :
    Sound window (r.step e) := by
  refine ⟨e.window_act.trans hs.window, fun hd => ?_, fun hd => ?_⟩
  · refine (e.running_act hd).trans (hs.running ?_)
    exact (Bool.or_eq_false_iff.1 (e.disposed_act.symm.trans hd)).1
  · replace hd := Bool.or_eq_false_iff.1 (e.disposed_act.symm.trans hd)
    obtain ⟨hd, he⟩ := hd
    have hf := hs.follows hd
    cases e with
    | update value =>
      have ha : (r.step (.update value)).accepted = r.accepted ++ [⟨value, r.now⟩] := by
        simp [step, Event.accepted?, hd]
      rw [ha]
      exact Follows.update hd value
    | dispose | drop => cases he
    | turn =>
      have ha : (r.step .turn).accepted = r.accepted := List.append_nil _
      have hp : (r.step .turn).pipeline = (r.pipeline.turn r.now).getD r.pipeline := rfl
      rw [ha, hp]
      cases ht : r.pipeline.turn r.now with
      | none => exact hf
      | some p' => exact (turn_eq_some ht).follows (hs.window ▸ hw) hd hf
    | pass ms =>
      have ha : (r.step (.pass ms)).accepted = r.accepted := List.append_nil _
      rw [ha]
      exact hf.mono (Nat.le_add_right _ _)

theorem sound_after (hw : 0 < window) (hs : Sound window r) (es : List (Event α)) :
    Sound window (r.after es) := by
  refine List.foldlRecOn es step hs ?_
  intro r hr e _
  exact sound_step hw hr e

theorem sound_start (initial : α) (window : Nat) : Sound window (start initial window) :=
  ⟨rfl, fun _ => rfl, fun _ => .settled rfl rfl rfl fun u h => by cases h⟩

/-- While the owner does nothing, no update is accepted and nothing is torn down. -/
theorem after_of_quiet {es : List (Event α)} (hq : ∀ e ∈ es, e.isQuiet = true) (r : Run α) :
    (r.after es).accepted = r.accepted ∧
      (r.after es).pipeline.disposed = r.pipeline.disposed := by
  refine List.foldlRecOn es step
    (motive := fun r' => r'.accepted = r.accepted ∧ r'.pipeline.disposed = r.pipeline.disposed)
    ⟨rfl, rfl⟩ ?_
  rintro r' ⟨ha, hd⟩ e he
  have he := hq e he
  refine ⟨?_, ?_⟩
  · cases e with
    | turn | pass => exact (List.append_nil _).trans ha
    | _ => cases he
  · refine e.disposed_act.trans ?_
    rw [hd]
    cases e with
    | turn | pass => exact Bool.or_false _
    | _ => cases he

/-- Nothing settles but the last update, after its window, at a turn of the task. -/
theorem settled_step (hw : 0 < window) (hs : Sound window r) (e : Event α) :
    let p := r.pipeline
    let p' := (r.step e).pipeline
    (p'.settled = p.settled ∧
      (e.isTeardown = false → p.pendingSince.isSome = true → p'.pendingSince = p.pendingSince)) ∨
    (e = .turn ∧ p.disposed = false ∧ p.pendingSince.isSome = true ∧ p.queue = [] ∧
      ∃ u, r.accepted.getLast? = some u ∧ u.acceptedAt + window ≤ r.now ∧
        p' = { p with latest := none }.settle u.value) := by
  cases e with
  | update value =>
    refine .inl ?_
    show (r.pipeline.update r.now value).settled = _ ∧
      (_ → _ → (r.pipeline.update r.now value).pendingSince = _)
    cases hd : r.pipeline.disposed with
    | true => rw [update_of_disposed hd]; exact ⟨rfl, fun _ _ => rfl⟩
    | false =>
      rw [update_of_not_disposed hd]
      exact ⟨settled_markPending, fun _ hp => by rw [markPending_of_pending hp]⟩
  | dispose =>
    refine .inl ⟨?_, fun h => (by cases h)⟩
    show r.pipeline.dispose.settled = _
    unfold dispose
    split <;> rfl
  | drop | pass => exact .inl ⟨rfl, fun _ _ => rfl⟩
  | turn =>
    have hp : (r.step .turn).pipeline = (r.pipeline.turn r.now).getD r.pipeline := rfl
    simp only [hp]
    cases ht : r.pipeline.turn r.now with
    | none => exact .inl ⟨rfl, fun _ _ => rfl⟩
    | some p' =>
      rw [Option.getD_some]
      cases turn_eq_some ht with
      | stop hr hd => exact .inl ⟨rfl, fun _ _ => rfl⟩
      | settleAtOnce hr hd hq hw' => have := hs.window; omega
      | take hr hd hq hw' =>
        exact .inl ⟨settled_markPending, fun _ hp => by rw [markPending_of_pending (by exact hp)]⟩
      | @settle u hr hd hq hl hn =>
        cases hs.follows hd with
        | queued hp hq' hl' => exact absurd hq hq'
        | settled hp hq' hu hl' => cases hl.symm.trans hu
        | @waiting v hp hq' hu hl' =>
          cases hl.symm.trans hu
          exact .inr ⟨trivial, hd, hp, hq, u, hl', hs.window ▸ hn, rfl⟩

/-- The last update at rest. -/
theorem follows_rest (hw : 0 < window) (hs : Sound window r) (hd : r.pipeline.disposed = false) :
    let q := Rehearsal.rest r.now r.pipeline
    q.window = window ∧ q.running = true ∧ q.queue = [] ∧
      (∀ u ∈ q.latest, r.now < u.acceptedAt + window) ∧ Follows r.now r.accepted q := by
  intro q
  have h : q.disposed = false ∧ q.window = window ∧ q.running = true ∧
      Follows r.now r.accepted q := by
    refine rest_induction (fun q => q.disposed = false ∧ q.window = window ∧ q.running = true ∧
      Follows r.now r.accepted q) ?_ ⟨hd, hs.window, hs.running hd, hs.follows hd⟩
    rintro p p' ht ⟨hd, hw', hr, hf⟩
    exact ⟨ht.disposed_eq.trans hd, ht.window_eq.trans hw', (ht.running_eq hd).trans hr,
      ht.follows (hw' ▸ hw) hd hf⟩
  obtain ⟨hd, hw', hr, hf⟩ := h
  obtain ⟨hq, hl⟩ := (turn_eq_none_iff hr hd).1 (turn_rest r.now r.pipeline)
  exact ⟨hw', hr, hq, hw' ▸ hl, hf⟩

/-- Whatever happens to a pipeline, and however late its task is: nothing settles but the last
update that was accepted, when none is left in the queue and a whole window has passed since. And
until that is over the task waits for just that instant; as soon as it runs at that instant or
later, the last update has settled, unless another one came or the pipeline was torn down. -/
theorem settles_last_when_quiet (initial : α) (window : Nat) (hw : 0 < window)
    (es : List (Event α)) :
    let r := (start initial window).after es
    let p := r.pipeline
    (∀ e : Event α,
      let p' := (r.step e).pipeline
      (p'.settled = p.settled ∧
        (e.isTeardown = false → p.pendingSince.isSome = true →
          p'.pendingSince = p.pendingSince)) ∨
      (e = .turn ∧ p.disposed = false ∧ p.pendingSince.isSome = true ∧ p.queue = [] ∧
        ∃ u, r.accepted.getLast? = some u ∧ u.acceptedAt + window ≤ r.now ∧
          p' = { p with latest := none }.settle u.value)) ∧
    (p.disposed = false → ∀ (value : α) (more : List (Event α)), (∀ e ∈ more, e.isQuiet = true) →
      let r' := (r.step (.update value)).after more
      let q := Rehearsal.rest r'.now r'.pipeline
      q.turn r'.now = none ∧
      (r'.now < r.now + window →
        q.due? = some (r.now + window) ∧ q.pendingSince.isSome = true) ∧
      (r.now + window ≤ r'.now → Same q.settled.value value ∧ q.pendingSince = none)) := by
  have hs := sound_after hw (sound_start initial window) es
  refine ⟨settled_step hw hs, fun hd value more hq => ?_⟩
  generalize (start initial window).after es = r at hs hd
  have hu : (r.step (.update value)).accepted = r.accepted ++ [⟨value, r.now⟩] := by
    simp [step, Event.accepted?, hd]
  have hd' : (r.step (.update value)).pipeline.disposed = false :=
    (Event.disposed_act _).trans (by rw [hd]; rfl)
  obtain ⟨ha, hd''⟩ := after_of_quiet hq (r.step (.update value))
  have hs' := sound_after hw (sound_step hw hs (.update value)) more
  have hlast : ((r.step (.update value)).after more).accepted.getLast? = some ⟨value, r.now⟩ := by
    rw [ha, hu, List.getLast?_concat]
  obtain ⟨hw', hr, he, hl, hf⟩ := follows_rest hw hs' (hd''.trans hd')
  refine ⟨turn_rest _ _, fun hn => ?_, fun hn => ?_⟩
  · cases hf with
    | queued hp hq hl' => exact absurd he hq
    | @waiting u hp _ hu' hl' =>
      cases hlast.symm.trans hl'
      exact ⟨by rw [due?, hr, hu', hw']; rfl, hp⟩
    | settled hp _ hu' hl' =>
      have hn' : r.now + window ≤ _ := hw' ▸ (hl' _ hlast).1
      omega
  · cases hf with
    | queued hp hq hl' => exact absurd he hq
    | @waiting u hp _ hu' hl' =>
      cases hlast.symm.trans hl'
      have hn' : _ < r.now + window := hl _ hu'
      omega
    | settled hp _ hu' hl' => exact ⟨(hl' _ hlast).2, hp⟩

/-- The task runs for the first time when the windows of two updates are over, and settles the
second one only. -/
theorem settles_last_when_quiet_late :
    0 < 300 ∧
      let r := (start "" 300).after [.update "a", .pass 400]
      let r' := (r.step (.update "b")).after [.pass 1000]
      let q := Rehearsal.rest r'.now r'.pipeline
      q.settled.published = ["b"] ∧ Same q.settled.value "b" ∧ q.pendingSince = none := by
  have hw : 0 < 300 := by decide
  obtain ⟨-, h⟩ := settles_last_when_quiet "" 300 hw [.update "a", .pass 400]
  obtain ⟨-, -, h⟩ := h rfl "b" [.pass 1000] (by decide)
  exact ⟨hw, by decide, h (by decide)⟩

end Run

end BackendMonitor.Debounce
