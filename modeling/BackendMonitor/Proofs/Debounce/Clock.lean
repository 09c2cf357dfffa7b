import BackendMonitor.Proofs.Debounce.Run

/-!
# The clock of a burst

A pipeline tells since when updates have been held back. That is the instant at which the first
update was accepted since something settled last, however late the task is, and whatever else was
accepted in the meantime.

* `Pipeline.settling?`: what the next turn of the task settles;
* `Run.burst`: the updates that were accepted since something settled last;
* `Run.pending_since_burst_began`: the clock of a pipeline tells when its burst began.
-/

namespace BackendMonitor.Debounce

variable {α : Type}

/-! ## What settles -/

/-- The value that settles with the next turn of the task. -/
def Pipeline.settling? (now : Nat) (p : Pipeline α) : Option α :=
  if !p.running || p.disposed then none
  else
    match p.queue with
    | u :: _ => if p.window = 0 then some u.value else none
    | [] => (p.latest.filter (·.acceptedAt + p.window ≤ now)).map (·.value)

/-- The value that settles with an event. -/
def Event.settling? (now : Nat) (p : Pipeline α) : Event α → Option α
  | .turn => p.settling? now
  | _ => none

variable [BEq α]

namespace Pipeline

variable {now : Nat} {accepted : List (Update α)} {p p' : Pipeline α}

/-- A turn that settles a value ends the burst, and tells observers unless they know the value. No
other turn touches what has settled, or a clock that runs. -/
theorem Turn.settles_or_stays (h : Turn now p p') :
    (∃ value, p.settling? now = some value ∧ p'.pendingSince = none ∧
      p'.settled = if p.settled.value == value then p.settled else p.settled.publish value) ∨
    (p.settling? now = none ∧ p'.settled = p.settled ∧
      (p.pendingSince.isSome = true → p'.pendingSince = p.pendingSince)) := by
  cases h with
  | stop hr hd => exact .inr ⟨by simp [settling?, hd], rfl, fun _ => rfl⟩
  | @settleAtOnce u queue hr hd hq hw =>
    exact .inl ⟨u.value, by simp [settling?, hr, hd, hq, hw], rfl, by simp [Pipeline.settle, hd]⟩
  | take hr hd hq hw =>
    refine .inr ⟨by simp [settling?, hr, hd, hq, Nat.ne_of_gt hw], settled_markPending, fun hp => ?_⟩
    rw [markPending_of_pending (by exact hp)]
  | @settle u hr hd hq hl hn =>
    exact .inl ⟨u.value, by simp [settling?, hr, hd, hq, hl, hn], rfl,
      by simp [Pipeline.settle, hd]⟩

/-- Nothing settles without a turn. -/
theorem settling?_of_turn_eq_none (h : p.turn now = none) : p.settling? now = none := by
  unfold settling?
  split
  · rfl
  · next hr =>
    have hr : p.running = true ∧ p.disposed = false := by simpa using hr
    obtain ⟨hq, hl⟩ := (turn_eq_none_iff hr.1 hr.2).1 h
    cases hu : p.latest with
    | none => rw [hq]; rfl
    | some u => simp [hq, hl u hu]

/-- While the task has something to do, updates are held back. -/
theorem Follows.pending_of_turn (hf : Follows now accepted p) (h : Turn now p p')
    (hd : p.disposed = false) : p.pendingSince.isSome = true := by
  cases hf with
  | queued hp | waiting hp => exact hp
  | settled hp hq hu hl =>
    cases h with
    | stop hr hd' => cases hd.symm.trans hd'
    | settleAtOnce hr hd hq' | take hr hd hq' => cases hq.symm.trans hq'
    | settle hr hd hq' hu' => cases hu.symm.trans hu'

end Pipeline

open Pipeline

namespace Run

/-! ## Bursts -/

/-- The updates of the burst after an event, given those before it. -/
def burstAfter (r : Run α) (us : List (Update α)) (e : Event α) : List (Update α) :=
  if (e.settling? r.now r.pipeline).isSome then []
  else us ++ (e.accepted? r.now r.pipeline).toList

/-- The updates that were accepted since something settled last, oldest first, given those before
the events. -/
def burst : Run α → List (Update α) → List (Event α) → List (Update α)
  | _, us, [] => us
  | r, us, e :: es => burst (r.step e) (r.burstAfter us e) es

/-- The updates of a burst are the last ones that were accepted. -/
theorem burst_isSuffix {r : Run α} {us : List (Update α)} (h : us <:+ r.accepted)
    (es : List (Event α)) : r.burst us es <:+ (r.after es).accepted := by
  induction es generalizing r us with
  | nil => exact h
  | cons e es ih =>
    refine ih (r := r.step e) ?_
    unfold burstAfter
    split
    · exact List.nil_suffix
    · obtain ⟨before, hb⟩ := h
      exact ⟨before, by rw [← List.append_assoc, hb]; rfl⟩

/-- The clock of a pipeline tells when a burst began. -/
def Clocked (us : List (Update α)) (p : Pipeline α) : Prop :=
  p.pendingSince = us.head?.map (·.acceptedAt)

variable {window : Nat} {r : Run α} {us : List (Update α)}

omit [BEq α] in
/-- An update begins a burst, or joins the one that there is. -/
theorem Clocked.update {now : Nat} {p : Pipeline α} (h : Clocked us p) (hd : p.disposed = false)
    (value : α) : Clocked (us ++ [⟨value, now⟩]) (p.update now value) := by
  unfold Clocked at *
  rw [update_of_not_disposed hd]
  cases us with
  | nil => exact congrArg Pipeline.pendingSince (markPending_of_not_pending hd h)
  | cons u us =>
    refine (congrArg Pipeline.pendingSince (markPending_of_pending ?_)).trans h
    rw [h]
    rfl

theorem clocked_step (hs : Sound window r) (h : r.pipeline.disposed = false → Clocked us r.pipeline)
    (e : Event α) (hd : (r.step e).pipeline.disposed = false) :
    Clocked (r.burstAfter us e) (r.step e).pipeline := by
  obtain ⟨hd', he⟩ := Bool.or_eq_false_iff.1 (e.disposed_act.symm.trans hd)
  clear hd
  replace h := h hd'
  cases e with
  | update value =>
    have hb : r.burstAfter us (.update value) = us ++ [⟨value, r.now⟩] := by
      simp [burstAfter, Event.settling?, Event.accepted?, hd']
    rw [hb]
    exact h.update hd' value
  | dispose | drop => cases he
  | pass ms =>
    rw [show r.burstAfter us (.pass ms) = us from List.append_nil us]
    exact h
  | turn =>
    have hp : (r.step .turn).pipeline = (r.pipeline.turn r.now).getD r.pipeline := rfl
    have hb : r.burstAfter us .turn = if (r.pipeline.settling? r.now).isSome then [] else us ++ [] :=
      rfl
    rw [hp, hb]
    cases ht : r.pipeline.turn r.now with
    | none =>
      rw [settling?_of_turn_eq_none ht, List.append_nil]
      exact h
    | some p' =>
      have ht := turn_eq_some ht
      rcases ht.settles_or_stays with ⟨value, hv, hp, -⟩ | ⟨hv, -, hp⟩
      · rw [hv]
        exact hp
      · rw [hv, List.append_nil]
        exact (hp ((hs.follows hd').pending_of_turn ht hd')).trans h

theorem clocked_after (hw : 0 < window) (hs : Sound window r)
    (h : r.pipeline.disposed = false → Clocked us r.pipeline) (es : List (Event α))
    (hd : (r.after es).pipeline.disposed = false) : Clocked (r.burst us es) (r.after es).pipeline := by
  induction es generalizing r us with
  | nil => exact h hd
  | cons e es ih => exact ih (sound_step hw hs e) (clocked_step hs h e) hd

/-! ## Without a window -/

/-- Without a window updates are held back only until the task has taken them all. -/
structure Immediate (p : Pipeline α) : Prop where
  window : p.window = 0
  queue : p.pendingSince.isSome = true → p.queue ≠ []

theorem immediate_act {now : Nat} {p : Pipeline α} (h : Immediate p) (e : Event α) :
    Immediate (e.act now p) := by
  refine ⟨e.window_act.trans h.window, ?_⟩
  cases e with
  | update value =>
    cases hd : p.disposed with
    | true =>
      rw [show Event.act now p (.update value) = p from update_of_disposed hd value]
      exact h.queue
    | false =>
      rw [show Event.act now p (.update value) = _ from update_of_not_disposed hd value]
      exact fun _ => List.append_ne_nil_of_right_ne_nil _ (List.cons_ne_nil _ _)
  | dispose =>
    show p.dispose.pendingSince.isSome = true → p.dispose.queue ≠ []
    unfold dispose
    split
    · exact h.queue
    · exact fun hp => by cases hp
  | drop | pass => exact h.queue
  | turn =>
    rw [show Event.act now p .turn = (p.turn now).getD p from rfl]
    cases ht : p.turn now with
    | none => exact h.queue
    | some p' =>
      rw [Option.getD_some]
      cases turn_eq_some ht with
      | stop => exact h.queue
      | settleAtOnce | settle => exact fun hp => by cases hp
      | take hr hd hq hw => exact absurd h.window (Nat.ne_of_gt hw)

theorem immediate_after (initial : α) (es : List (Event α)) :
    Immediate ((start initial 0).after es).pipeline :=
  List.foldlRecOn es step (motive := fun r => Immediate r.pipeline) ⟨rfl, fun hp => by cases hp⟩
    fun _ h e _ => immediate_act h e

/-! ## The clock -/

/-- Whatever happens to a pipeline that is not torn down, and however late its task is: its clock
tells when the first update was accepted since something settled last, and there is none if no
update was. More updates leave the clock alone, and whatever settles stops it, also a value that is
equal to the one before and of which nobody is told. Without a window no clock runs once the task
has nothing to do. -/
theorem pending_since_burst_began (initial : α) (window : Nat) (es : List (Event α)) :
    let r := (start initial window).after es
    let p := r.pipeline
    let burst := (start initial window).burst [] es
    p.disposed = false →
    burst <:+ r.accepted ∧
    (0 < window → p.pendingSince = burst.head?.map (·.acceptedAt)) ∧
    (0 < window → p.pendingSince.isSome = true → ∀ value,
      (r.step (.update value)).pipeline.pendingSince = p.pendingSince) ∧
    (∀ value, p.settling? r.now = some value →
      let p' := (r.step .turn).pipeline
      p'.pendingSince = none ∧ ((p.settled.value == value) = true → p'.settled = p.settled)) ∧
    (window = 0 → p.turn r.now = none → p.pendingSince = none) := by
  intro r p burst hd
  refine ⟨burst_isSuffix List.nil_suffix es, fun hw => ?_, fun hw hp value => ?_, fun value hv => ?_,
    fun hw ht => ?_⟩
  · have hc : Clocked [] (start initial window).pipeline := rfl
    exact clocked_after hw (sound_start initial window) (fun _ => hc) es hd
  · show (p.update r.now value).pendingSince = p.pendingSince
    rw [update_of_not_disposed hd, markPending_of_pending hp]
  · have hp : (r.step .turn).pipeline = (p.turn r.now).getD p := rfl
    cases ht : p.turn r.now with
    | none => cases (settling?_of_turn_eq_none ht).symm.trans hv
    | some p' =>
      rw [hp, ht, Option.getD_some]
      rcases (turn_eq_some ht).settles_or_stays with ⟨value', hv', hp', hs⟩ | ⟨hv', -⟩
      · cases hv.symm.trans hv'
        exact ⟨hp', fun he => hs.trans (if_pos he)⟩
      · cases hv.symm.trans hv'
  · subst hw
    have hi := immediate_after initial es
    refine Option.not_isSome_iff_eq_none.1 fun hp => hi.queue hp ?_
    exact ((turn_eq_none_iff (running_after initial 0 es hd) hd).1 ht).1

/-- A task that is late settles a value that was there already, and then two updates come without
its running again. -/
def lateBursts : List (Event String) :=
  [.update "b", .pass 100, .update "a", .pass 600, .turn, .turn, .turn, .pass 50, .update "c",
    .pass 500, .update "d"]

/-- The clock tells of the first of the two updates, though a whole window has passed since. -/
theorem pending_since_burst_began_late :
    let p := ((start "a" 300).after lateBursts).pipeline
    0 < 300 ∧ p.disposed = false ∧ p.settled.published = [] ∧ p.pendingSince = some 750 := by
  have hw : 0 < 300 := by decide
  obtain ⟨-, h, -⟩ := pending_since_burst_began "a" 300 lateBursts (by decide)
  exact ⟨hw, by decide, by decide, (h hw).trans (by decide)⟩

end Run

end BackendMonitor.Debounce
