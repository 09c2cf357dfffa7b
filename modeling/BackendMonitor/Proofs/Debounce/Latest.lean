import BackendMonitor.Proofs.Debounce.Bursts
import BackendMonitor.Proofs.Debounce.Run

/-!
# The latest update

What a pipeline with any window does with the update that was accepted last: it holds it back until
it has settled. Nothing but updates settles.

* `Pipeline.heldBack?`: the last update that has not settled;
* `Pipeline.Kept`: what every step keeps (`Run.kept_after`);
* `Pipeline.Kept.lt_of_dueSince?`: a task that is not too late with what it has to do is not too
  late to settle an update either;
* `Pipeline.OnTime`: a task that is not late at all.
-/

namespace BackendMonitor.Debounce

variable {α : Type}

namespace Pipeline

/-! ## Updates that are held back -/

/-- The last update that has not settled. -/
def heldBack? (p : Pipeline α) : Option (Update α) :=
  p.queue.getLast?.or p.latest

/-- Since when the task has had something to do, or when it will have. -/
def dueSince? (p : Pipeline α) : Option Nat :=
  match p.queue with
  | u :: _ => some u.acceptedAt
  | [] => p.latest.map (·.acceptedAt + p.window)

variable {now : Nat} {initial : α} {accepted : List (Update α)} {p p' : Pipeline α}

/-- To take an update from the queue makes no difference for the last one. -/
theorem getLast?_or_cons (u : Update α) (queue : List (Update α)) (latest : Option (Update α)) :
    (u :: queue).getLast?.or latest = queue.getLast?.or (some u) := by
  rw [List.getLast?_cons]
  cases queue.getLast? <;> rfl

/-- What has settled are updates, and observers were told of each. -/
structure Honest (initial : α) (accepted : List (Update α)) (w : Watched α) : Prop where
  published : ∀ value ∈ w.published, ∃ u ∈ accepted, u.value = value
  value : (w.published ++ [initial]).head? = some w.value

theorem Honest.accept {w : Watched α} (h : Honest initial accepted w) (us : List (Update α)) :
    Honest initial (accepted ++ us) w := by
  refine ⟨fun value hv => ?_, h.value⟩
  obtain ⟨u, hu, rfl⟩ := h.published value hv
  exact ⟨u, List.mem_append_left us hu, rfl⟩

variable [BEq α]

theorem Honest.settle (h : Honest initial accepted p.settled) {u : Update α} (hu : u ∈ accepted) :
    Honest initial accepted (p.settle u.value).settled := by
  show Honest initial accepted
    (if p.disposed || p.settled.value == u.value then p.settled else p.settled.publish u.value)
  split
  · exact h
  · refine ⟨fun value hv => ?_, rfl⟩
    rcases List.mem_cons.1 hv with rfl | hv
    · exact ⟨u, hu, rfl⟩
    · exact h.published value hv

/-- The update that was accepted last is held back, or has settled. -/
structure Latest (accepted : List (Update α)) (p : Pipeline α) : Prop where
  heldBack : ∀ u ∈ p.heldBack?, accepted.getLast? = some u
  settled : p.heldBack? = none → ∀ u ∈ accepted.getLast?, Same p.settled.value u.value

/-- Every turn of a pipeline that was not torn down goes on with the update that was accepted last.
Only with a window does one wait outside the queue. -/
theorem Turn.latest (h : Turn now p p') (hd : p.disposed = false)
    (hw : ∀ u ∈ p.latest, 0 < p.window) (hl : Latest accepted p) : Latest accepted p' := by
  have taken {u : Update α} {queue : List (Update α)} (hq : p.queue = u :: queue) :
      p.heldBack? = queue.getLast?.or (some u) := by
    rw [heldBack?, hq, getLast?_or_cons]
  cases h with
  | stop hr hd' => cases hd.symm.trans hd'
  | @settleAtOnce u queue hr _ hq hw' =>
    have hnone : p.latest = none :=
      Option.eq_none_iff_forall_not_mem.2 fun v hv => by have := hw v hv; omega
    have hheld : ({ p with queue := queue }.settle u.value).heldBack? = queue.getLast?.or none := by
      rw [← hnone]
      rfl
    refine ⟨fun v hv => ?_, fun hn v hv => ?_⟩
    · rw [hheld, Option.or_none] at hv
      exact hl.heldBack v (by rw [taken hq, hv]; rfl)
    · rw [hheld, Option.or_none] at hn
      have hlast := hl.heldBack u (by rw [taken hq, hn]; rfl)
      cases hlast.symm.trans hv
      exact same_settle (by exact hd) u.value
  | @take u queue hr _ hq hw' =>
    have hheld : ({ { p with queue := queue }.markPending u.acceptedAt with
        latest := some u } : Pipeline α).heldBack? = p.heldBack? := by
      rw [taken hq, heldBack?, queue_markPending]
    refine ⟨hheld ▸ hl.heldBack, fun hn => ?_⟩
    rw [hheld, taken hq, Option.or_eq_none_iff] at hn
    cases hn.2
  | @settle u hr _ hq hu hn =>
    have hheld : p.heldBack? = some u := by rw [heldBack?, hq, hu]; rfl
    have hheld' : ({ p with latest := none }.settle u.value).heldBack? = none := by
      simp [heldBack?, Pipeline.settle, hq]
    refine ⟨fun v hv => (by rw [hheld'] at hv; cases hv), fun _ v hv => ?_⟩
    cases (hl.heldBack u hheld).symm.trans hv
    exact same_settle (by exact hd) u.value

/-- What every step keeps, with any window. -/
structure Kept (initial : α) (now : Nat) (accepted : List (Update α)) (p : Pipeline α) :
    Prop where
  ordered : Ordered accepted
  accepted_le : ∀ u ∈ accepted, u.acceptedAt ≤ now
  queue : p.queue <:+ accepted
  waiting : ∀ u ∈ p.latest, 0 < p.window ∧ u ∈ accepted
  latest : p.disposed = false → Latest accepted p
  honest : Honest initial accepted p.settled

theorem Kept.update (h : Kept initial now accepted p) (hd : p.disposed = false) (value : α) :
    Kept initial now (accepted ++ [⟨value, now⟩]) (p.update now value) := by
  rw [update_of_not_disposed hd]
  refine ⟨?_, ?_, ?_, ?_, fun _ => ⟨?_, ?_⟩, ?_⟩
  · exact List.pairwise_append.2 ⟨h.ordered, List.pairwise_singleton _ _, fun u hu v hv =>
      List.mem_singleton.1 hv ▸ h.accepted_le u hu⟩
  · intro u hu
    rcases List.mem_append.1 hu with hu | hu
    · exact h.accepted_le u hu
    · exact Nat.le_of_eq (congrArg Update.acceptedAt (List.mem_singleton.1 hu))
  · obtain ⟨before, hb⟩ := h.queue
    exact ⟨before, by rw [← hb, List.append_assoc]⟩
  · simp only [latest_markPending, window_markPending]
    exact fun u hu => ⟨(h.waiting u hu).1, List.mem_append_left _ (h.waiting u hu).2⟩
  · simp [heldBack?]
  · simp [heldBack?]
  · simp only [settled_markPending]
    exact h.honest.accept _

theorem Kept.turn (h : Kept initial now accepted p) (ht : Turn now p p') :
    Kept initial now accepted p' := by
  have hlatest (hd : p'.disposed = false) : Latest accepted p' := by
    have hd : p.disposed = false := ht.disposed_eq.symm.trans hd
    exact ht.latest hd (fun u hu => (h.waiting u hu).1) (h.latest hd)
  cases ht with
  | stop hr hd => exact ⟨h.ordered, h.accepted_le, h.queue, h.waiting, hlatest, h.honest⟩
  | @settleAtOnce u queue hr hd hq hw =>
    have hsuffix : u :: queue <:+ accepted := hq ▸ h.queue
    exact ⟨h.ordered, h.accepted_le, (List.suffix_cons u queue).trans hsuffix, h.waiting, hlatest,
      h.honest.settle (hsuffix.subset List.mem_cons_self)⟩
  | @take u queue hr hd hq hw =>
    have hsuffix : u :: queue <:+ accepted := hq ▸ h.queue
    refine ⟨h.ordered, h.accepted_le, ?_, fun v hv => ?_, hlatest, ?_⟩
    · simp only [queue_markPending]
      exact (List.suffix_cons u queue).trans hsuffix
    · cases hv
      simp only [window_markPending]
      exact ⟨hw, hsuffix.subset List.mem_cons_self⟩
    · simp only [settled_markPending]
      exact h.honest
  | @settle u hr hd hq hl hn =>
    exact ⟨h.ordered, h.accepted_le, h.queue, fun v hv => (by cases hv), hlatest,
      h.honest.settle (h.waiting u hl).2⟩

theorem Kept.pass (h : Kept initial now accepted p) (ms : Nat) :
    Kept initial (now + ms) accepted p :=
  { h with accepted_le := fun u hu => Nat.le_trans (h.accepted_le u hu) (Nat.le_add_right now ms) }

theorem Kept.of_teardown (h : Kept initial now accepted p) (hd : p'.disposed = true)
    (hq : p'.queue = p.queue) (hl : p'.latest = p.latest) (hw : p'.window = p.window)
    (hs : p'.settled = p.settled) : Kept initial now accepted p' where
  ordered := h.ordered
  accepted_le := h.accepted_le
  queue := hq ▸ h.queue
  waiting := hl ▸ hw ▸ h.waiting
  latest hd' := by cases hd.symm.trans hd'
  honest := hs ▸ h.honest

/-- The updates in the queue are no older than the first one. -/
theorem Kept.le_of_heldBack (h : Kept initial now accepted p) {u v : Update α}
    {queue : List (Update α)} (hq : p.queue = u :: queue) (hv : p.heldBack? = some v) :
    u.acceptedAt ≤ v.acceptedAt := by
  have hordered : Ordered (u :: queue) := h.ordered.sublist (hq ▸ h.queue).sublist
  rw [heldBack?, hq, getLast?_or_cons] at hv
  rcases Option.or_eq_some_iff.1 hv with hv | ⟨-, hv⟩
  · exact (List.pairwise_cons.1 hordered).1 v (List.mem_of_getLast? hv)
  · cases hv
    exact Nat.le_refl _

/-- A task that is not too late with what it has to do is not too late to settle an update
either. -/
theorem Kept.lt_of_dueSince? (h : Kept initial now accepted p) {late time : Nat}
    (hdue : ∀ since ∈ p.dueSince?, time < since + late) {u : Update α} (hu : p.heldBack? = some u) :
    time < u.acceptedAt + p.window + late := by
  unfold dueSince? at hdue
  cases hq : p.queue with
  | nil =>
    rw [heldBack?, hq, List.getLast?_nil, Option.none_or] at hu
    rw [hq, hu] at hdue
    exact hdue _ rfl
  | cons v queue =>
    rw [hq] at hdue
    have hv : time < v.acceptedAt + late := hdue _ rfl
    have hle := h.le_of_heldBack hq hu
    omega

/-! ## Punctual tasks -/

/-- The task is not late with anything. -/
def OnTime (now : Nat) (p : Pipeline α) : Prop :=
  ∀ since ∈ p.dueSince?, now ≤ since

omit [BEq α] in
theorem OnTime.update (h : OnTime now p) (hd : p.disposed = false) (value : α) :
    OnTime now (p.update now value) := by
  rw [update_of_not_disposed hd]
  intro since hs
  cases hq : p.queue with
  | nil =>
    simp only [dueSince?, hq, List.nil_append] at hs
    exact Nat.le_of_eq (Option.some.inj hs)
  | cons u queue =>
    simp only [dueSince?, hq, List.cons_append] at hs
    exact h since (by rw [dueSince?, hq]; exact hs)

/-- A turn of a task that is not late leaves it so: what it has to do next is no older. -/
theorem OnTime.turn (h : OnTime now p) (hk : Kept initial now accepted p) (ht : Turn now p p')
    (hd : p.disposed = false) : OnTime now p' := by
  have next {u v : Update α} {queue : List (Update α)} (hq : p.queue = u :: v :: queue) :
      now ≤ v.acceptedAt := by
    have hordered : Ordered (u :: v :: queue) := hk.ordered.sublist (hq ▸ hk.queue).sublist
    have hu : now ≤ u.acceptedAt := h _ (by rw [dueSince?, hq]; rfl)
    exact Nat.le_trans hu ((List.pairwise_cons.1 hordered).1 v List.mem_cons_self)
  intro since hs
  cases ht with
  | stop hr hd' => cases hd.symm.trans hd'
  | @settleAtOnce u queue hr _ hq hw =>
    cases queue with
    | cons v queue =>
      cases hs
      exact next hq
    | nil =>
      obtain ⟨v, hv, -⟩ : ∃ v, p.latest = some v ∧ _ := Option.map_eq_some_iff.1 hs
      exact absurd (hk.waiting v hv).1 (by omega)
  | @take u queue hr _ hq hw =>
    cases queue with
    | cons v queue =>
      simp only [dueSince?, queue_markPending] at hs
      cases hs
      exact next hq
    | nil =>
      have hu : now ≤ u.acceptedAt := h _ (by rw [dueSince?, hq]; rfl)
      simp only [dueSince?, queue_markPending] at hs
      cases hs
      exact Nat.le_add_right_of_le hu
  | @settle u hr _ hq hl hn =>
    simp [dueSince?, Pipeline.settle, hq] at hs

/-- Time passes while the task has nothing to do, and up to the instant at most at which it has. -/
theorem OnTime.pass {ms : Nat} (hd : p.disposed = false) (hr : p.running = true)
    (ht : p.turn now = none) (hdue : ∀ instant ∈ p.due?, now + ms ≤ instant) :
    OnTime (now + ms) p := by
  intro since hs
  refine hdue since ?_
  rw [due?, hr]
  rwa [dueSince?, ((turn_eq_none_iff hr hd).1 ht).1] at hs

end Pipeline

open Pipeline

/-! ## Runs -/

variable [BEq α] {initial : α}

theorem Run.kept_step {r : Run α} (h : Kept initial r.now r.accepted r.pipeline) (e : Event α) :
    Kept initial (r.step e).now (r.step e).accepted (r.step e).pipeline := by
  cases e with
  | update value =>
    cases hd : r.pipeline.disposed with
    | true =>
      have hp : (r.step (.update value)).pipeline = r.pipeline := update_of_disposed hd value
      have ha : (r.step (.update value)).accepted = r.accepted := by
        simp [step, Event.accepted?, hd]
      rw [hp, ha]
      exact h
    | false =>
      have ha : (r.step (.update value)).accepted = r.accepted ++ [⟨value, r.now⟩] := by
        simp [step, Event.accepted?, hd]
      rw [ha]
      exact h.update hd value
  | dispose =>
    rw [show (r.step .dispose).accepted = r.accepted from List.append_nil _]
    show Kept initial r.now r.accepted r.pipeline.dispose
    cases hd : r.pipeline.disposed with
    | true => rwa [dispose_of_disposed hd]
    | false =>
      rw [dispose_of_not_disposed hd]
      exact h.of_teardown rfl rfl rfl rfl rfl
  | drop =>
    rw [show (r.step .drop).accepted = r.accepted from List.append_nil _]
    exact h.of_teardown rfl rfl rfl rfl rfl
  | turn =>
    rw [show (r.step .turn).accepted = r.accepted from List.append_nil _]
    show Kept initial r.now r.accepted ((r.pipeline.turn r.now).getD r.pipeline)
    cases ht : r.pipeline.turn r.now with
    | none => exact h
    | some p' => exact h.turn (turn_eq_some ht)
  | pass ms =>
    rw [show (r.step (.pass ms)).accepted = r.accepted from List.append_nil _]
    exact h.pass ms

theorem Run.kept_after (initial : α) (window : Nat) (es : List (Event α)) :
    let r := (start initial window).after es
    Kept initial r.now r.accepted r.pipeline := by
  refine List.foldlRecOn es step
    (motive := fun r => Kept initial r.now r.accepted r.pipeline) ?_ fun r h e _ => kept_step h e
  exact ⟨.nil, fun u hu => absurd hu List.not_mem_nil, List.suffix_refl [], fun u hu => (by cases hu),
    fun _ => ⟨fun u hu => (by cases hu), fun _ u hu => (by cases hu)⟩,
    ⟨fun v hv => absurd hv List.not_mem_nil, rfl⟩⟩

end BackendMonitor.Debounce
