import BackendMonitor.Debounce.Rehearsal
import BackendMonitor.Proofs.Schedule

/-!
# Turns of a pipeline

What one turn of the task of a pipeline does (`Turn`, `turn_eq_some`), with what it looked at. At
every instant the task comes to rest (`turn_rest`). Then, unless the pipeline was torn down, all
updates are taken, and the window of the last one is not over (`turn_eq_none_iff`).
-/

namespace BackendMonitor.Debounce.Pipeline

variable {α : Type} {now : Nat} {p p' : Pipeline α}

/-! ## Bursts and their clock -/

theorem markPending_of_pending (h : p.pendingSince.isSome = true) : p.markPending now = p := by
  rw [markPending, h, Bool.or_true, if_pos rfl]

theorem markPending_of_not_pending (hd : p.disposed = false) (h : p.pendingSince = none) :
    p.markPending now = { p with pendingSince := some now } := by
  rw [markPending, hd, h]
  rfl

theorem isSome_pendingSince_markPending (hd : p.disposed = false) :
    (p.markPending now).pendingSince.isSome = true := by
  cases h : p.pendingSince with
  | some since => rw [markPending_of_pending (by rw [h]; rfl), h]; rfl
  | none => rw [markPending_of_not_pending hd h]; rfl

theorem update_of_disposed (hd : p.disposed = true) (value : α) : p.update now value = p := by
  rw [update, hd, if_pos rfl]

theorem update_of_not_disposed (hd : p.disposed = false) (value : α) :
    p.update now value =
      { p.markPending now with queue := p.queue ++ [⟨value, now⟩] } := by
  have hq : (p.markPending now).queue = p.queue := by
    unfold markPending; split <;> rfl
  rw [update, hd, ← hq]
  rfl

/-! The clock leaves everything else alone. -/

@[simp] theorem settled_markPending : (p.markPending now).settled = p.settled := by
  unfold markPending; split <;> rfl

@[simp] theorem held_markPending : (p.markPending now).held = p.held := by
  unfold markPending; split <;> rfl

@[simp] theorem disposed_markPending : (p.markPending now).disposed = p.disposed := by
  unfold markPending; split <;> rfl

@[simp] theorem queue_markPending : (p.markPending now).queue = p.queue := by
  unfold markPending; split <;> rfl

@[simp] theorem latest_markPending : (p.markPending now).latest = p.latest := by
  unfold markPending; split <;> rfl

@[simp] theorem running_markPending : (p.markPending now).running = p.running := by
  unfold markPending; split <;> rfl

@[simp] theorem window_markPending : (p.markPending now).window = p.window := by
  unfold markPending; split <;> rfl

/-! ## The end -/

theorem dispose_of_disposed (hd : p.disposed = true) : p.dispose = p :=
  if_pos hd

theorem dispose_of_not_disposed (hd : p.disposed = false) :
    p.dispose = { p with disposed := true, pendingSince := none } := by
  unfold dispose
  rw [hd]
  rfl

theorem drop_of_disposed (hd : p.disposed = true) : p.drop = { p with held := false } := by
  unfold drop
  rw [← hd]

theorem disposed_dispose : p.dispose.disposed = true := by
  unfold dispose
  split
  · assumption
  · rfl

/-! The owner leaves alone what has settled. -/

@[simp] theorem settled_update (value : α) : (p.update now value).settled = p.settled := by
  unfold update
  split
  · rfl
  · exact settled_markPending

@[simp] theorem settled_dispose : p.dispose.settled = p.settled := by
  unfold dispose; split <;> rfl

variable [BEq α]

/-- One value is the other, or counts as equal to it. -/
def Same (a b : α) : Prop := a = b ∨ (a == b) = true

theorem same_settle (hd : p.disposed = false) (value : α) :
    Same (p.settle value).settled.value value := by
  unfold settle
  rw [hd, Bool.false_or]
  by_cases h : (p.settled.value == value) = true
  · rw [if_pos h]
    exact .inr h
  · rw [if_neg h]
    exact .inl rfl

/-! ## Turns -/

/-- What one turn of the task does at the instant `now`. -/
inductive Turn (now : Nat) (p : Pipeline α) : Pipeline α → Prop where
  | stop (hr : p.running = true) (hd : p.disposed = true) : Turn now p { p with running := false }
  /-- Without a window an update settles as soon as it is taken. -/
  | settleAtOnce {u : Update α} {queue : List (Update α)} (hr : p.running = true)
      (hd : p.disposed = false) (hq : p.queue = u :: queue) (hw : p.window = 0) :
      Turn now p ({ p with queue := queue }.settle u.value)
  | take {u : Update α} {queue : List (Update α)} (hr : p.running = true) (hd : p.disposed = false)
      (hq : p.queue = u :: queue) (hw : 0 < p.window) :
      Turn now p { { p with queue := queue }.markPending u.acceptedAt with latest := some u }
  /-- The window of the last update is over. -/
  | settle {u : Update α} (hr : p.running = true) (hd : p.disposed = false) (hq : p.queue = [])
      (hl : p.latest = some u) (hn : u.acceptedAt + p.window ≤ now) :
      Turn now p ({ p with latest := none }.settle u.value)

theorem turn_eq_some (h : p.turn now = some p') : Turn now p p' := by
  unfold turn at h
  split at h
  · cases h
  · next hr =>
    have hr : p.running = true := by simpa using hr
    split at h
    · next hd => cases h; exact .stop hr hd
    · next hd =>
      have hd : p.disposed = false := by simpa using hd
      split at h
      · next hq =>
        simp only at h
        split at h
        · next hw => cases h; exact .settleAtOnce hr hd hq hw
        · next hw => cases h; exact .take hr hd hq (Nat.pos_of_ne_zero hw)
      · next hq =>
        split at h
        · next hl =>
          split at h
          · next hn => cases h; exact .settle hr hd hq hl hn
          · cases h
        · cases h

theorem Turn.turn_eq (h : Turn now p p') : p.turn now = some p' := by
  unfold turn
  cases h with
  | stop hr hd => simp [hr, hd]
  | settleAtOnce hr hd hq hw => simp [hr, hd, hq, hw]
  | take hr hd hq hw => simp [hr, hd, hq, Nat.ne_of_gt hw]
  | settle hr hd hq hl hn => simp [hr, hd, hq, hl, hn]

/-- When the task has nothing to do, though the pipeline was not torn down. -/
theorem turn_eq_none_iff (hr : p.running = true) (hd : p.disposed = false) :
    p.turn now = none ↔ p.queue = [] ∧ ∀ u ∈ p.latest, now < u.acceptedAt + p.window := by
  unfold turn
  rw [hr, hd]
  cases hq : p.queue with
  | cons u queue => by_cases hw : p.window = 0 <;> simp [hw]
  | nil => cases hl : p.latest <;> simp

/-! What no turn changes. -/

theorem Turn.window_eq (h : Turn now p p') : p'.window = p.window := by
  cases h <;> simp [Pipeline.settle]

theorem Turn.disposed_eq (h : Turn now p p') : p'.disposed = p.disposed := by
  cases h <;> simp [Pipeline.settle]

/-- The task runs until the pipeline is torn down. -/
theorem Turn.running_eq (h : Turn now p p') (hd : p.disposed = false) :
    p'.running = p.running := by
  cases h with
  | stop hr hd' => cases hd.symm.trans hd'
  | _ => simp [Pipeline.settle]

/-! ## Rest -/

/-- How much the task has to do. -/
def load (p : Pipeline α) : Nat :=
  2 * p.queue.length + p.latest.isSome.toNat + p.running.toNat

omit [BEq α] in
theorem load_le_turnBound (p : Pipeline α) : p.load ≤ p.turnBound := by
  have h₁ := p.latest.isSome.toNat_le
  have h₂ := p.running.toNat_le
  unfold load turnBound
  omega

/-- Every turn leaves less to do. -/
theorem Turn.load_lt (h : Turn now p p') : p'.load < p.load := by
  cases h with
  | stop hr hd => simp [load, hr]
  | settleAtOnce hr hd hq hw => simp [load, Pipeline.settle, hq]
  | take hr hd hq hw => simp [load, hq]; omega
  | settle hr hd hq hl hn => simp [load, Pipeline.settle, hq, hl]

theorem tiring (now : Nat) :
    Schedule.Tiring (turn now : Pipeline α → Option (Pipeline α)) (fun _ => True) load where
  keeps _ _ _ _ := trivial
  tires _ _ h _ := (turn_eq_some h).load_lt

/-- The task comes to rest. -/
theorem turn_rest (now : Nat) (p : Pipeline α) : (Rehearsal.rest now p).turn now = none :=
  (tiring now).rests trivial p.load_le_turnBound

theorem rest_of_none (h : p.turn now = none) : Rehearsal.rest now p = p :=
  Schedule.runTurns_of_none h _

/-- One turn leads to rest. -/
theorem Turn.rest_eq (h : Turn now p p') (h' : p'.turn now = none) :
    Rehearsal.rest now p = p' :=
  (Schedule.runTurns_of_some h.turn_eq _).trans (Schedule.runTurns_of_none h' _)

/-- What every turn keeps holds at rest. -/
theorem rest_induction (motive : Pipeline α → Prop)
    (hturn : ∀ p p', Turn now p p' → motive p → motive p') (h : motive p) :
    motive (Rehearsal.rest now p) :=
  Schedule.runTurns_induction motive (fun p p' ht => hturn p p' (turn_eq_some ht)) _ h

end BackendMonitor.Debounce.Pipeline
