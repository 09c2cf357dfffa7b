import BackendMonitor.Proofs.Poller.Rehearsal
import BackendMonitor.Proofs.Scan.Run

/-!
# Rehearsals of a scan

A scan that is run against a list of responses (`Scan.run`) is not interrupted, and each response
goes to the call whose turn it is. So what it comes to is what one of the runs of the scan leads to
(`Run.exists_after_eq_run`), and all that holds of every run holds of it.

* `Awaits`: a poller waits for the answer to the last of its calls. At the instant of a call it
  makes no other one (`Awaits.rested`), and if it waits for no answer it has made none
  (`Going.calls_rested`);
* `Run.calls_of_due`: between two responses just one call is made.
-/

namespace BackendMonitor

namespace Scan

open Http

/-! ## Turns at one instant -/

/-- To take turns is for the poller to take them. -/
theorem runTurns_turn (now limit : Nat) (s : Scan) :
    Schedule.runTurns (turn now) limit s =
      { s with poller := Schedule.runTurns (Poller.turn now) limit s.poller } := by
  induction limit generalizing s with
  | zero => rfl
  | succ limit ih =>
    cases hp : s.poller.turn now with
    | none =>
      have ht : s.turn now = none := by rw [turn, hp]; rfl
      rw [Schedule.runTurns_of_none ht, Schedule.runTurns_of_none hp]
    | some p =>
      have ht : s.turn now = some { s with poller := p } := by rw [turn, hp]; rfl
      rw [Schedule.runTurns_of_some ht, Schedule.runTurns_of_some hp, ih]

theorem rest_eq (now : Nat) (s : Scan) :
    s.rest now = { s with poller := s.poller.rested now }.look := by
  rw [rest, runTurns_turn]
  rfl

theorem calls_rest (now : Nat) (s : Scan) :
    (s.rest now).poller.calls = (s.poller.rested now).calls := by
  rw [rest_eq, look]
  split <;> rfl

theorem ticking_rest {s : Scan} (hk : s.poller.Ticking) (now : Nat) :
    (s.rest now).poller.Ticking := by
  have hr := Poller.ticking_rested hk now
  rw [rest_eq, look]
  split <;> exact hr

/-- As long as its end is not noted, a scan that rests has taken its turns, and no more. -/
theorem rest_of_ending_eq_none {now : Nat} {s : Scan} (h : (s.rest now).ending = none) :
    s.ending = none ∧ (s.rest now).poller = s.poller.rested now := by
  rw [rest_eq, look] at h ⊢
  split at h
  · cases h
  · next hl => exact ⟨h, by rw [if_neg hl]⟩

theorem calls_respond (c : Client) (response : Option Response) (s : Scan) :
    (s.respond c response).poller.calls = s.poller.calls := by
  unfold respond
  split
  · rw [Poller.answer_eq]
  · rfl

theorem ticking_respond {s : Scan} (hk : s.poller.Ticking) (c : Client)
    (response : Option Response) : (s.respond c response).poller.Ticking := by
  unfold respond
  split
  · exact Poller.ticking_answer hk _
  · exact hk

/-! ## Calls at one instant -/

/-- A poller that has made `n` calls, and waits for the answer to the last one. -/
structure Awaits (n : Nat) (p : Poller ScanRequest) : Prop where
  calls : p.calls.length = n
  task : p.task = .submitting none ∨
    ∃ t f, p.task = .tracking t ∧ t.poll = some f ∧ f.result = none

variable {c : Client} {request : ScanRequest} {replies : Replies} {budget : Option UInt32}
  {n now : Nat} {p p' : Poller ScanRequest}

theorem Awaits.due?_eq_none (h : Awaits n p) : p.due? = none := by
  rcases h.task with ht | ⟨t, f, ht, hf, -⟩
  · rw [Poller.due?, ht]
  · rw [Poller.due?, ht]
    simp [hf]

/-- A poller that waits goes on to wait. -/
theorem Awaits.turn (h : Awaits n p) (hg : Going c request replies budget p)
    (ht : Poller.Turn now p p') : Awaits n p' := by
  obtain ⟨hn, hw⟩ := h
  have hd := hg.disposed
  have hc := hg.cancels
  cases ht with
  | stop hd' => cases hd.symm.trans hd'
  | submit _ ht | refused _ ht | accepted _ ht =>
    rcases hw with hw | ⟨t, f, hw, -⟩
    · cases ht.symm.trans hw
    · cases ht.symm.trans hw
  | ignore _ ht hc' | askCancel _ ht hc' => omega
  | cancelled _ ht | resume _ ht =>
    rcases hw with hw | ⟨t, f, hw, hf⟩
    · cases ht.symm.trans hw
    · cases ht.symm.trans hw
      exact ⟨hn, .inr ⟨_, f, rfl, hf⟩⟩
  | polled _ ht _ hr =>
    rcases hw with hw | ⟨t, f, hw, hf, hr'⟩
    · cases ht.symm.trans hw
    · cases ht.symm.trans hw
      cases hr.symm.trans hf
      cases hr'
  | poll _ ht _ hp =>
    rcases hw with hw | ⟨t, f, hw, hf, -⟩
    · cases ht.symm.trans hw
    · cases ht.symm.trans hw
      cases hp.symm.trans hf

/-- A turn makes no call, or the poller waits for the answer to the one that it makes. -/
theorem Going.calls_turn (hg : Going c request replies budget p) (ht : Poller.Turn now p p') :
    p'.calls = p.calls ∨ Awaits (p.calls.length + 1) p' := by
  have hc := hg.cancels
  cases ht with
  | stop hd => cases hg.disposed.symm.trans hd
  | submit => exact .inr ⟨rfl, .inl rfl⟩
  | refused | accepted | cancelled | resume => exact .inl rfl
  | ignore _ _ hc' | askCancel _ _ hc' => omega
  | polled hd ht _ hr =>
    obtain ⟨job, -, hp⟩ := hg.aligned.polled hd ht hr
    exact .inl hp.frame.1
  | poll => exact .inr ⟨rfl, .inr ⟨_, _, rfl, rfl, rfl⟩⟩

/-- A poller that has made a call waits for its answer. -/
theorem Awaits.rested (hg : Going c request replies budget p) (ht : p.turn now = some p')
    (h : Awaits n p') : Awaits n (p.rested now) := by
  refine (Poller.rested_of_turn
    (fun p => Going c request replies budget p ∧ Awaits n p) ?_ ht ⟨hg.turn ht, h⟩).2
  rintro p p' ht ⟨hg, h⟩
  exact ⟨hg.turn ht, h.turn hg (Poller.turn_eq_some ht)⟩

theorem Going.rested (hg : Going c request replies budget p) (now : Nat) :
    Going c request replies budget (p.rested now) :=
  Schedule.runTurns_induction _ (fun _ _ ht hg => hg.turn ht) _ hg

/-- A poller that rests and waits for no answer has made no call. -/
theorem Going.calls_rested (hg : Going c request replies budget p) {d : Nat}
    (hd : (p.rested now).due? = some d) : (p.rested now).calls = p.calls := by
  have h : Going c request replies budget (p.rested now) ∧
      ((p.rested now).calls = p.calls ∨ Awaits (p.calls.length + 1) (p.rested now)) := by
    refine Schedule.runTurns_induction (fun q => Going c request replies budget q ∧
      (q.calls = p.calls ∨ Awaits (p.calls.length + 1) q)) ?_ _ ⟨hg, .inl rfl⟩
    rintro q q' ht ⟨hq, hc⟩
    refine ⟨hq.turn ht, ?_⟩
    rcases hc with hc | hc
    · rw [← hc]
      exact hq.calls_turn (Poller.turn_eq_some ht)
    · exact .inr (hc.turn hq (Poller.turn_eq_some ht))
  exact h.2.resolve_right fun hw => by cases hw.due?_eq_none.symm.trans hd

/-- When its next poll is due, a poller at rest makes it, and waits for the answer. -/
theorem Going.awaits_rested (hg : Going c request replies budget p) (hr : p.turn now = none)
    {d : Nat} (hd : p.due? = some d) : Awaits (p.calls.length + 1) (p.rested d) := by
  unfold Poller.due? at hd
  split at hd
  · next t ht =>
    obtain ⟨hc, -⟩ := (Poller.turn_eq_none_iff_of_tracking hg.disposed ht).1 hr
    split at hd
    · next hp =>
      cases hd
      have hto : p.turn t.ticker.due = some (p.onTick t.ticker.due t) := by
        rw [Poller.turn_of_clear hg.disposed ht hc, Option.isNone_iff_eq_none.1 hp]
        exact if_pos (by simp [Ticker.isDue])
      exact Awaits.rested hg hto ⟨rfl, .inr ⟨_, _, rfl, rfl, rfl⟩⟩
    · cases hd
  · cases hd

/-- A poller that has only been asked to submit a job submits it first. -/
theorem Going.awaits_rested_of_starting (hg : Going c request replies budget p)
    (ht : p.task = .starting request) (now : Nat) : Awaits 1 (p.rested now) := by
  have hc : p.calls = [] := by
    rcases hg.calls with ⟨-, hc⟩ | ⟨hs, -⟩
    · exact hc
    · rw [ht] at hs; cases hs
  exact Awaits.rested hg (Poller.turn_of_starting now hg.disposed ht)
    ⟨congrArg (·.length + 1) hc, .inl rfl⟩

/-! ## Rehearsals -/

theorem starting_of_start {settings : PollSettings} {s : Scan}
    (h : start settings request = .ok s) :
    s.ending = none ∧ s.poller.task = .starting request ∧ s.poller.Ticking := by
  unfold start at h
  cases hp : (Poller.ofSettings settings : Except Failure (Poller ScanRequest)) with
  | error f => rw [hp] at h; cases h
  | ok p =>
    rw [hp] at h
    cases h
    unfold Poller.ofSettings at hp
    split at hp
    · cases hp
      exact ⟨rfl, rfl, fun t ht => (by cases ht)⟩
    · cases hp

theorem Stage.going_of_ending_eq_none {s : Scan} (h : Stage c request replies budget s)
    (he : s.ending = none) : Going c request replies budget s.poller := by
  cases h with
  | going _ h => exact h
  | ended _ _ he' => cases he'.symm.trans he

namespace Run

theorem exists_turns (c : Client) (replies : Replies) (limit : Nat) (r : Run) :
    ∃ k, r.after c replies (.replicate k .turn) =
      { r with scan := Schedule.runTurns (Scan.turn r.now) limit r.scan } := by
  induction limit generalizing r with
  | zero => exact ⟨0, rfl⟩
  | succ limit ih =>
    rw [Schedule.runTurns]
    cases ht : r.scan.turn r.now with
    | none => exact ⟨0, rfl⟩
    | some s =>
      obtain ⟨k, hk⟩ := ih { r with scan := s }
      refine ⟨k + 1, ?_⟩
      rw [List.replicate_succ, after_cons, step, ht]
      exact hk

/-- To let a scan rest is one of the things that can happen to it. -/
theorem exists_after_eq_rest (c : Client) (replies : Replies) (r : Run) :
    ∃ es, r.after c replies es = { r with scan := r.scan.rest r.now } := by
  obtain ⟨k, hk⟩ := exists_turns c replies (r.scan.poller.turnBound r.now) r
  refine ⟨.replicate k .turn ++ [.look], ?_⟩
  rw [after_append, hk]
  rfl

/-- A scan whose last call is answered makes no call until the next poll is due, and one call
then. -/
theorem calls_of_due {r : Run} (h : Stage c request replies budget r.scan)
    (hk : r.scan.poller.Ticking) {s : Scan} {d : Nat}
    (hs : s = (r.step c replies .answered).scan.rest r.now) (he : s.ending = none)
    (hd : s.poller.due? = some d) :
    r.now ≤ d ∧ (s.rest d).poller.calls.length = r.scan.poller.calls.length + 1 := by
  have hk : (r.step c replies .answered).scan.poller.Ticking := ticking_respond hk c _
  have hc : (r.step c replies .answered).scan.poller.calls = r.scan.poller.calls :=
    calls_respond _ _ _
  have hst := stage_step r .answered h
  generalize (r.step c replies .answered).scan = s₀ at hs hk hc hst
  subst hs
  obtain ⟨he₀, hp⟩ := rest_of_ending_eq_none he
  have hg : Going c request replies budget s₀.poller := hst.going_of_ending_eq_none he₀
  rw [hp] at hd
  have hr := Poller.turn_rested hk r.now
  have hw := (hg.rested r.now).awaits_rested hr hd
  rw [hg.calls_rested hd, hc] at hw
  refine ⟨Nat.le_of_lt (Poller.lt_of_mem_due? hr hd), ?_⟩
  rw [calls_rest, hp]
  exact hw.calls

/-- To follow a scan against the replies to its next calls is one of the things that can happen to
it. -/
theorem exists_after_eq_follow (n : Nat) {k : Nat} {r : Run}
    (h : Stage c request replies budget r.scan) (hk : r.scan.poller.Ticking)
    (hc : r.scan.poller.calls.length = k + 1) :
    ∃ es, (r.after c replies es).scan =
      follow c ((List.range' k n).map replies) r.now r.scan := by
  -- The replies that are left are those to the calls from the last one on.
  induction n generalizing r k with
  | zero => exact ⟨[], rfl⟩
  | succ n ih =>
    have ha : (r.step c replies .answered).scan = r.scan.respond c (replies k) := by
      rw [step, hc]
      rfl
    rw [List.range'_succ, List.map_cons, follow, ← ha]
    obtain ⟨es, hes⟩ := exists_after_eq_rest c replies (r.step c replies .answered)
    rw [← after_cons] at hes
    have hst := stage_after h (.answered :: es)
    have hk' := ticking_rest (ticking_respond hk c (replies k)) r.now
    rw [← ha] at hk'
    generalize hs : (r.step c replies .answered).scan.rest r.now = s at hk' ⊢
    replace hes : r.after c replies (.answered :: es) = { scan := s, now := r.now } := by
      rw [hes, ← hs]
      rfl
    rw [hes] at hst
    cases he : s.ending with
    | some ending => exact ⟨_, congrArg Run.scan hes⟩
    | none =>
      cases hd : s.poller.due? with
      | none => exact ⟨_, congrArg Run.scan hes⟩
      | some d =>
        obtain ⟨hle, hc'⟩ := calls_of_due h hk hs.symm he hd
        -- Time passes until the next poll is due, and the poll is made.
        obtain ⟨fs, hfs⟩ := exists_after_eq_rest c replies { scan := s, now := d }
        obtain ⟨gs, hgs⟩ := ih (k := k + 1) (r := { scan := s.rest d, now := d })
          (by have hst := stage_after (r := { scan := s, now := d }) hst fs; rwa [hfs] at hst)
          (ticking_rest hk' d) (by rw [hc', hc])
        refine ⟨(.answered :: es) ++ (.pass (d - r.now) :: (fs ++ gs)), ?_⟩
        rw [after_append, hes, after_cons, step, Nat.add_sub_cancel' hle, after_append, hfs]
        exact hgs

/-- To rehearse a scan against the replies to its first calls is one of the things that can happen
to it. -/
theorem exists_after_eq_run {settings : PollSettings} {s : Scan}
    (h : start settings request = .ok s) (c : Client) (replies : Replies) (n : Nat) :
    ∃ es, run c settings request ((List.range n).map replies) =
      .ok (Run.after c replies { scan := s } es).scan := by
  have hst : Stage c request replies settings.maxConsecutiveFailures s := stage_of_start h
  obtain ⟨he, ht, hk⟩ := starting_of_start h
  have hw := (hst.going_of_ending_eq_none he).awaits_rested_of_starting ht 0
  obtain ⟨es, hes⟩ := exists_after_eq_rest c replies { scan := s }
  obtain ⟨fs, hfs⟩ := exists_after_eq_follow n (k := 0) (r := { scan := s.rest 0 })
    (by have hst := stage_after (r := { scan := s }) hst es; rwa [hes] at hst)
    (ticking_rest hk 0) (by rw [calls_rest]; exact hw.calls)
  refine ⟨es ++ fs, ?_⟩
  rw [after_append, hes, run, h, List.range_eq_range']
  exact congrArg Except.ok hfs.symm

end Run

end Scan

end BackendMonitor
