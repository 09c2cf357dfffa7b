import BackendMonitor.Proofs.Poller.Rehearsal
import BackendMonitor.Proofs.Poller.Timing

/-!
# When polls are made

The ticker of a poller is due on a grid that starts when the job is accepted. It is only looked at
while no poll is under way, so that a poll that is answered late makes the next one late, and ticks
are skipped; but each poll uses up an instant of the grid, and none is made before its own.

* `OnGrid`: where on the grid the polls are, however late everything is;
* `Run.isPunctual`: whether the task takes its turns as soon as it can;
* `Run.OnTime`: where they are if polls are answered before the next one is due;
* `Run.Soon`: how far the next poll is from an answer;
* `Run.KeepsToGrid`: how polls are made, and `Run.polls_keep_to_grid`: so they are in every run.
-/

namespace BackendMonitor.Poller

variable {ρ : Type}

/-! ## Late polls -/

/-- What holds of each element of a list and those after it, and of another one and the list, holds
of the list with that one in front. -/
theorem forall_split_cons {Q : List Nat → Nat → Prop} {x : Nat} {l : List Nat} (hx : Q l x)
    (hl : ∀ newer s older, l = newer ++ s :: older → Q older s) :
    ∀ newer s older, x :: l = newer ++ s :: older → Q older s := by
  intro newer s older h
  cases newer with
  | nil =>
    cases h
    exact hx
  | cons y newer =>
    injection h with _ h
    exact hl newer s older h

/-- The grid starts at `origin`; each poll has an instant of its own on it, before which it did not
start, and so will the next one. -/
structure OnGrid (origin period : Nat) (p : Poller ρ) : Prop where
  begun : p.phase ≠ .submitting
  starts : ∀ newer s older, p.starts = newer ++ s :: older →
    origin + (older.length + 1) * period ≤ s
  ticker : ∀ k f, p.timing? = some (k, f) → k.period = period ∧
    ∃ j, p.starts.length < j ∧ k.due = origin + j * period

variable {origin period : Nat}

theorem Timing.onGrid {now : Nat} {e : Event ρ} {p p' : Poller ρ} (h : Timing now e p p')
    (hperiod : 0 < period) (hb : p'.phase ≠ .submitting) (hg : OnGrid origin period p) :
    OnGrid origin period p' := by
  have stay : p'.starts = p.starts → (∀ k f', p'.timing? = some (k, f') →
      ∃ f, p.timing? = some (k, f)) → OnGrid origin period p' := by
    intro hs ht
    refine ⟨hb, hs ▸ hg.starts, fun k f' hk => ?_⟩
    obtain ⟨f, hf⟩ := ht k f' hk
    rw [hs]
    exact hg.ticker k f hf
  cases h with
  | accepted hp => exact absurd hp hg.begun
  | @made k f ht hn ht' hf hs =>
    obtain ⟨hk, j, hj, hd⟩ := hg.ticker k none ht
    obtain ⟨j', hj', hd'⟩ := Ticker.exists_due_take (by omega) (hk.symm ▸ hd) hn
    have hle : (p.starts.length + 1) * period ≤ j * period := Nat.mul_le_mul_right _ hj
    refine ⟨hb, ?_, fun k' f' hk' => ?_⟩
    · rw [hs]
      exact forall_split_cons (by omega) hg.starts
    · rw [ht'] at hk'
      cases hk'
      rw [hs, List.length_cons]
      exact ⟨hk, j', by omega, hk ▸ hd'⟩
  | @answered k f f' he ht ht' hf hs =>
    refine stay hs fun k' g hk' => ?_
    rw [ht'] at hk'
    cases hk'
    exact ⟨_, ht⟩
  | @taken k f ht hf ht' hs =>
    refine stay hs fun k' g hk' => ?_
    rw [ht'] at hk'
    cases hk'
    exact ⟨_, ht⟩
  | ended ht' hs =>
    refine stay hs fun k' g hk' => ?_
    simp [timing?, ht'] at hk'
  | apart ht' hs => exact stay hs fun k' g hk' => ⟨g, ht' ▸ hk'⟩

/-- As many polls start within some time as there are instants of the grid. -/
theorem countP_starts_le (hperiod : 0 < period) {l : List Nat}
    (h : ∀ newer s older, l = newer ++ s :: older → origin + (older.length + 1) * period ≤ s)
    (t : Nat) : l.countP (· ≤ origin + t) ≤ t / period := by
  induction l with
  | nil => exact Nat.zero_le _
  | cons s l ih =>
    have hl := ih fun newer s' older hl => h (s :: newer) s' older (congrArg (s :: ·) hl)
    rw [List.countP_cons]
    split
    · next hs =>
      have hs : s ≤ origin + t := of_decide_eq_true hs
      have hfirst := h [] s l rfl
      have hlength : l.length + 1 ≤ t / period := (Nat.le_div_iff_mul_le hperiod).2 (by omega)
      have hcount : l.countP (· ≤ origin + t) ≤ l.length := List.countP_le_length
      omega
    · exact hl

namespace Run

variable {server : Server} {r : Run ρ}

/-- However late everything is, polls keep to the grid. -/
theorem onGrid_after (hperiod : 0 < period) (hb : Begun server r.poller)
    (hg : OnGrid origin period r.poller) (es : List (Event ρ)) :
    OnGrid origin period (r.after server es).poller := by
  have hr : Begun server (r.after server es).poller ∧
      OnGrid origin period (r.after server es).poller := by
    refine after_induction
      (fun r => Begun server r.poller ∧ OnGrid origin period r.poller) ?_ es ⟨hb, hg⟩
    intro r e ⟨hb, hg⟩
    have hb' := hb.step e
    exact ⟨hb', (timing_step e hb.aligned).onGrid hperiod hb'.phase.2 hg⟩
  exact hr.2

/-! ## Punctual runs -/

/-- Whether an event is in time: the clock only moves on when the task has nothing to do, and not
past the instant at which it has. -/
def isPunctual (r : Run ρ) : Event ρ → Bool
  | .pass ms => (r.poller.turn r.now).isNone && r.poller.due?.all (r.now + ms ≤ ·)
  | _ => true

/-- Whether all of some events are in time. -/
def punctual (server : Server) : Run ρ → List (Event ρ) → Bool
  | _, [] => true
  | r, e :: es => r.isPunctual e && punctual server (r.step server e) es

/-- Whether an event is no answer to a poll that comes after the next poll is due, on the grid of a
job that was accepted at `origin`. -/
def isPrompt (origin period : Nat) (r : Run ρ) (e : Event ρ) : Bool :=
  !(e.isPollAnswer && r.poller.awaitsAnswer) ||
    decide (r.now ≤ origin + (r.poller.polls + 1) * period)

/-- Whether all answers to polls come before the next poll is due. -/
def prompt (server : Server) (origin period : Nat) : Run ρ → List (Event ρ) → Bool
  | _, [] => true
  | r, e :: es => r.isPrompt origin period e && prompt server origin period (r.step server e) es

/-- Whether there is no poll that the task still waits for. -/
def Settled (f : Option PollInFlight) : Prop :=
  ∀ g ∈ f, g.result.isSome = true

/-- While no poll is under way the clock does not move past the instant at which one is due. -/
theorem le_due_of_isPunctual {ms : Nat} {k : Ticker} {f : Option PollInFlight}
    (hp : r.isPunctual (.pass ms) = true) (ht : r.poller.timing? = some (k, f)) (hf : Settled f) :
    r.now + ms ≤ k.due := by
  obtain ⟨hn, hdue⟩ := (Bool.and_eq_true _ _).mp hp
  have hn := Option.isNone_iff_eq_none.1 hn
  obtain ⟨t, htask, rfl, rfl⟩ := tracking_of_timing? ht
  have hd : r.poller.disposed = false := by
    cases hd : r.poller.disposed with
    | false => rfl
    | true => rw [Poller.turn, htask] at hn; exact absurd hn (by simp [hd])
  obtain ⟨-, hwait, -⟩ := (turn_eq_none_iff_of_tracking hd htask).1 hn
  cases hpoll : t.poll with
  | none =>
    have hd : r.poller.due? = some t.ticker.due := by simp [due?, htask, hpoll]
    rw [hd] at hdue
    simpa using hdue
  | some g =>
    have hg := hf g hpoll
    rw [hwait g hpoll] at hg
    cases hg

/-- Each poll started just at its instant of the grid, and the next one will. -/
structure OnTime (origin period : Nat) (r : Run ρ) : Prop where
  starts : ∀ newer s older, r.poller.starts = newer ++ s :: older →
    s = origin + (older.length + 1) * period
  ticker : ∀ k f, r.poller.timing? = some (k, f) → k.period = period ∧
    k.due = origin + (r.poller.starts.length + 1) * period ∧ (Settled f → r.now ≤ k.due)

theorem OnTime.pass (h : OnTime origin period r) {ms : Nat}
    (hp : r.isPunctual (.pass ms) = true) :
    OnTime origin period (r.step server (.pass ms)) := by
  refine ⟨h.starts, fun k f hk => ?_⟩
  obtain ⟨hperiod, hdue, -⟩ := h.ticker k f hk
  exact ⟨hperiod, hdue, fun hf => le_due_of_isPunctual hp hk hf⟩

theorem OnTime.of_timing {r' : Run ρ} {e : Event ρ} (h : OnTime origin period r)
    (ht : Timing r.now e r.poller r'.poller) (hnow : r'.now = r.now)
    (hb : r.poller.phase ≠ .submitting) (hprompt : r.isPrompt origin period e = true) :
    OnTime origin period r' := by
  cases ht with
  | accepted hp => exact absurd hp hb
  | @made k f ht hn ht' hf hs =>
    obtain ⟨hperiod, hdue, hle⟩ := h.ticker k none ht
    -- The poll can only start at its own instant.
    have hstart : r.now = k.due := by
      have hle := hle fun g hg => by cases hg
      omega
    refine ⟨?_, fun k' f' hk' => ?_⟩
    · rw [hs]
      exact forall_split_cons (hstart.trans hdue) h.starts
    · rw [ht'] at hk'
      cases hk'
      rw [hs, List.length_cons, hnow]
      refine ⟨hperiod, ?_, fun hf' => ?_⟩
      · have hnext := Nat.add_one_mul (r.poller.starts.length + 1) period
        rw [hstart, Ticker.due_take_self, hdue, hperiod]
        omega
      · have hf' := hf' f rfl
        rw [hf] at hf'
        cases hf'
  | @answered k f f' he ht ht' hf hs =>
    obtain ⟨hperiod, hdue, hle⟩ := h.ticker k (some f) ht
    refine ⟨hs ▸ h.starts, fun k' g hk' => ?_⟩
    rw [ht'] at hk'
    cases hk'
    rw [hs, hnow]
    refine ⟨hperiod, hdue, fun _ => ?_⟩
    cases hr : f.result with
    | some x =>
      refine hle fun g hg => ?_
      cases hg
      rw [hr]
      rfl
    | none =>
      have ha : r.poller.awaitsAnswer = true := by simp [awaitsAnswer, ht, hr]
      have hp := hprompt
      rw [isPrompt, he, ha, ← length_starts] at hp
      rw [hdue]
      simpa using hp
  | @taken k f ht hf ht' hs =>
    obtain ⟨hperiod, hdue, hle⟩ := h.ticker k (some f) ht
    refine ⟨hs ▸ h.starts, fun k' g hk' => ?_⟩
    rw [ht'] at hk'
    cases hk'
    rw [hs, hnow]
    refine ⟨hperiod, hdue, fun _ => hle fun g hg => ?_⟩
    cases hg
    exact hf
  | ended ht' hs =>
    refine ⟨hs ▸ h.starts, fun k' g hk' => ?_⟩
    simp [timing?, ht'] at hk'
  | apart ht' hs =>
    refine ⟨hs ▸ h.starts, fun k' g hk' => ?_⟩
    rw [hs, hnow]
    exact h.ticker k' g (ht' ▸ hk')

/-- The task is not late for a poll. -/
theorem OnTime.now_le_of_idle (h : OnTime origin period r) {t : Tracking}
    (ht : r.poller.task = .tracking t) (hp : r.poller.isPolling = false) :
    r.now ≤ origin + (r.poller.polls + 1) * period := by
  obtain ⟨-, hdue, hle⟩ := h.ticker _ _ (timing?_of_tracking ht)
  have hpoll : t.poll = none := by simpa [isPolling, ht] using hp
  rw [← length_starts, ← hdue]
  refine hle fun g hg => ?_
  rw [hpoll] at hg
  cases hg

theorem OnTime.after (hb : Begun server r.poller) (h : OnTime origin period r)
    {es : List (Event ρ)} (hp : r.punctual server es = true)
    (hq : r.prompt server origin period es = true) : OnTime origin period (r.after server es) := by
  induction es generalizing r with
  | nil => exact h
  | cons e es ih =>
    obtain ⟨hpe, hp⟩ := (Bool.and_eq_true _ _).mp hp
    obtain ⟨hqe, hq⟩ := (Bool.and_eq_true _ _).mp hq
    refine ih (hb.step e) ?_ hp hq
    by_cases he : ∃ ms, e = .pass ms
    · obtain ⟨ms, rfl⟩ := he
      exact h.pass hpe
    · have hnow : (r.step server e).now = r.now := now_step fun ms hms => he ⟨ms, hms⟩
      exact h.of_timing (timing_step e hb.aligned) hnow hb.phase.2 hqe

/-- After the polls that started at `starts` were answered at the instant `answered`: the next one
starts within a period. -/
structure Soon (answered period : Nat) (starts : List Nat) (r : Run ρ) : Prop where
  kept : starts <:+ r.poller.starts
  next : ∀ newer s, r.poller.starts = newer ++ s :: starts → s ≤ answered + period
  waiting : r.poller.starts = starts → ∀ k f, r.poller.timing? = some (k, f) →
    k.due ≤ answered + period ∧ Settled f ∧ r.now ≤ answered + period

variable {answered : Nat} {starts : List Nat}

theorem Soon.pass (h : Soon answered period starts r) {ms : Nat}
    (hp : r.isPunctual (.pass ms) = true) :
    Soon answered period starts (r.step server (.pass ms)) := by
  refine ⟨h.kept, h.next, fun hs k f hk => ?_⟩
  obtain ⟨hdue, hf, -⟩ := h.waiting hs k f hk
  have hle := le_due_of_isPunctual hp hk hf
  exact ⟨hdue, hf, Nat.le_trans hle hdue⟩

/-- The next poll has started: nothing more is asked for. -/
theorem Soon.start (h : Soon answered period starts r) {r' : Run ρ}
    (hle : r.poller.starts = starts → r.now ≤ answered + period)
    (hs : r'.poller.starts = r.now :: r.poller.starts) : Soon answered period starts r' := by
  have hlength := h.kept.length_le
  have hn : r'.poller.starts ≠ starts := fun hn => by
    have hl := congrArg List.length hn
    rw [hs, List.length_cons] at hl
    omega
  refine ⟨hs ▸ h.kept.trans (List.suffix_cons _ _), fun newer s hsplit => ?_, fun h => absurd h hn⟩
  rw [hs] at hsplit
  cases newer with
  | nil =>
    injection hsplit with hnow hstarts
    exact hnow ▸ hle hstarts
  | cons x newer =>
    injection hsplit with _ hsplit
    exact h.next newer s hsplit

theorem Soon.of_timing {r' : Run ρ} {e : Event ρ} (h : Soon answered period starts r)
    (ht : Timing r.now e r.poller r'.poller) (hnow : r'.now = r.now)
    (hb : r.poller.phase ≠ .submitting) : Soon answered period starts r' := by
  have stay : r'.poller.starts = r.poller.starts → (r.poller.starts = starts → ∀ k f,
      r'.poller.timing? = some (k, f) →
        Settled f ∧ ∃ f', r.poller.timing? = some (k, f')) → Soon answered period starts r' := by
    intro hs hk
    refine ⟨hs ▸ h.kept, hs ▸ h.next, fun hstarts k f ht => ?_⟩
    have hstarts := hs.symm.trans hstarts
    obtain ⟨hf, f', hf'⟩ := hk hstarts k f ht
    obtain ⟨hdue, -, hle⟩ := h.waiting hstarts k f' hf'
    exact ⟨hdue, hf, hnow ▸ hle⟩
  cases ht with
  | accepted hp => exact absurd hp hb
  | made ht hn ht' hf hs => exact h.start (fun hstarts => (h.waiting hstarts _ _ ht).2.2) hs
  | @answered k f f' he ht ht' hf hs =>
    refine stay hs fun hstarts k' g hk' => ?_
    rw [ht'] at hk'
    cases hk'
    refine ⟨fun x hx => ?_, _, ht⟩
    cases hx
    exact hf
  | @taken k f ht hf ht' hs =>
    refine stay hs fun hstarts k' g hk' => ?_
    rw [ht'] at hk'
    cases hk'
    exact ⟨fun x hx => (by cases hx), _, ht⟩
  | ended ht' hs =>
    refine stay hs fun _ k' g hk' => ?_
    simp [timing?, ht'] at hk'
  | apart ht' hs =>
    refine stay hs fun hstarts k' g hk' => ?_
    have hk := ht' ▸ hk'
    exact ⟨(h.waiting hstarts k' g hk).2.1, g, hk⟩

theorem Soon.after (hb : Begun server r.poller) (h : Soon answered period starts r)
    {es : List (Event ρ)} (hp : r.punctual server es = true) :
    Soon answered period starts (r.after server es) := by
  induction es generalizing r with
  | nil => exact h
  | cons e es ih =>
    obtain ⟨hpe, hp⟩ := (Bool.and_eq_true _ _).mp hp
    refine ih (hb.step e) ?_ hp
    by_cases he : ∃ ms, e = .pass ms
    · obtain ⟨ms, rfl⟩ := he
      exact h.pass hpe
    · have hnow : (r.step server e).now = r.now := now_step fun ms hms => he ⟨ms, hms⟩
      exact h.of_timing (timing_step e hb.aligned) hnow hb.phase.2

/-! ## Progress -/

theorem punctual_append (es fs : List (Event ρ)) :
    r.punctual server (es ++ fs) =
      (r.punctual server es && (r.after server es).punctual server fs) := by
  induction es generalizing r with
  | nil => rfl
  | cons e es ih => rw [List.cons_append, punctual, punctual, ih, Bool.and_assoc, after_cons]

theorem punctual_turns (k : Nat) : r.punctual server (.replicate k .turn) = true := by
  induction k generalizing r with
  | zero => rfl
  | succ k ih =>
    rw [List.replicate_succ, punctual, ih]
    rfl

theorem undisturbed_turns (k : Nat) : Undisturbed (.replicate k (.turn : Event ρ)) := by
  intro e he
  rw [List.eq_of_mem_replicate he]
  rfl

/-- When nothing about canceling is left and no poll is under way, the next one is made as soon as
it is due. -/
theorem exists_start_of_clear (server : Server) {ticker : Ticker} {n : Nat}
    (h : Following none ticker n r.poller) (hc : Clear r.poller) :
    ∃ later, Undisturbed later ∧ r.punctual server later = true ∧
      (r.after server later).poller.polls = n + 1 := by
  obtain ⟨hd, ⟨t, ht, hp, rfl⟩, hn⟩ := h
  have made : ∀ now, t.ticker.due ≤ now →
      ∃ p, r.poller.turn now = some p ∧ p.polls = n + 1 := by
    intro now hnow
    refine ⟨r.poller.onTick now t, ?_, ?_⟩
    · rw [turn_of_clear hd ht hc, hp]
      exact if_pos (by simpa [Ticker.isDue] using hnow)
    · rw [← hn]
      simp [onTick, track, call, polls, Call.isPoll]
  by_cases hdue : t.ticker.due ≤ r.now
  · obtain ⟨p, hto, hpolls⟩ := made r.now hdue
    refine ⟨[.turn], undisturbed_turns 1, rfl, ?_⟩
    rw [after_turn hto]
    exact hpolls
  · have hnone : r.poller.turn r.now = none := by
      rw [turn_of_clear hd ht hc, hp]
      exact if_neg (by simpa [Ticker.isDue] using hdue)
    have hd? : r.poller.due? = some t.ticker.due := by simp [due?, ht, hp]
    have hpass : r.isPunctual (.pass (t.ticker.due - r.now)) = true := by
      rw [isPunctual, hnone, hd?]
      simp only [Option.isNone_none, Option.all_some, Bool.true_and, decide_eq_true_eq]
      omega
    obtain ⟨p, hto, hpolls⟩ := made (r.now + (t.ticker.due - r.now)) (by omega)
    refine ⟨[.pass (t.ticker.due - r.now), .turn], ?_, ?_, ?_⟩
    · simp [Undisturbed, Event.isTeardown]
    · rw [punctual, hpass]
      rfl
    · rw [after_cons, after_turn hto]
      exact hpolls

/-- A task that follows a job and waits for no answer makes the next poll in time. -/
theorem exists_start {t : Tracking} (hd : r.poller.disposed = false)
    (ht : r.poller.task = .tracking t) (hp : t.poll = none) :
    ∃ later, Undisturbed later ∧ r.punctual server later = true ∧
      (r.after server later).poller.polls = r.poller.polls + 1 := by
  have hfollowing : Following none t.ticker r.poller.polls r.poller :=
    ⟨hd, ⟨t, ht, hp, rfl⟩, rfl⟩
  obtain ⟨k, hf, hc, -⟩ := exists_clear server hfollowing
  obtain ⟨later, hu, hl, hpolls⟩ := exists_start_of_clear server hf hc
  refine ⟨.replicate k .turn ++ later, ?_, ?_, ?_⟩
  · intro e he
    rcases List.mem_append.1 he with he | he
    · exact undisturbed_turns k e he
    · exact hu e he
  · rw [punctual_append, punctual_turns, hl]
    rfl
  · rw [after_append]
    exact hpolls

/-! ## Runs -/

/-- What every step keeps. -/
structure Ticked (server : Server) (period : Nat) (r : Run ρ) : Prop where
  aligned : Aligned server r.poller
  period_eq : r.poller.period = period
  ticker : ∀ k f, r.poller.timing? = some (k, f) → k.period = period ∧ k.due ≤ r.now + period

theorem Ticked.step (h : Ticked server period r) (e : Event ρ) :
    Ticked server period (r.step server e) := by
  refine ⟨(aligned_step r e h.aligned).1, (period_step e h.aligned).trans h.period_eq,
    fun k f hk => ?_⟩
  have hle := now_le_step server r e
  have stay : ∀ {k' : Ticker} {f' : Option PollInFlight}, r.poller.timing? = some (k', f') →
      k = k' → k.period = period ∧ k.due ≤ (r.step server e).now + period := by
    rintro k' f' hk' rfl
    obtain ⟨hp, hd⟩ := h.ticker k f' hk'
    exact ⟨hp, by omega⟩
  have htiming : Timing r.now e r.poller (r.step server e).poller := timing_step e h.aligned
  cases htiming with
  | accepted hp ht ht' hs =>
    rw [ht'] at hk
    cases hk
    rw [h.period_eq]
    exact ⟨rfl, Nat.add_le_add_right hle _⟩
  | made ht hn ht' hf hs =>
    rw [ht'] at hk
    cases hk
    obtain ⟨hp, -⟩ := h.ticker _ _ ht
    have hd := Ticker.due_take_le hn
    exact ⟨hp, by omega⟩
  | answered he ht ht' hf hs =>
    rw [ht'] at hk
    cases hk
    exact stay ht rfl
  | taken ht hf ht' hs =>
    rw [ht'] at hk
    cases hk
    exact stay ht rfl
  | ended ht' hs => simp [timing?, ht'] at hk
  | apart ht' hs => exact stay (ht' ▸ hk) rfl

theorem ticked_after (server : Server) {s : PollSettings} {p : Poller ρ}
    (h : ofSettings s = .ok p) (es : List (Event ρ)) :
    Ticked server s.intervalMs.toNat ((start p).after server es) := by
  refine after_induction (Ticked server s.intervalMs.toNat) (fun r e h => h.step e) es
    ⟨(sound_start server h).aligned, ?_, fun k f hk => ?_⟩
  · unfold ofSettings at h
    split at h
    · cases h; rfl
    · cases h
  · have ht : p.timing? = none := by simp [timing?, (new_of_ofSettings h).1]
    cases ht.symm.trans hk

/-- The job is accepted: the ticker starts, and there are no polls. -/
theorem Ticked.timing_of_accepted (h : Ticked server period r)
    (hp : r.poller.phase = .submitting) (hp' : (r.step server .turn).poller.phase = .polling) :
    (r.step server .turn).poller.timing? = some (⟨period, r.now + period⟩, none) ∧
      (r.step server .turn).poller.starts = [] := by
  have hfollows : ∀ t, r.poller.task ≠ .tracking t := by
    intro t ht
    obtain ⟨hl, -, -⟩ := h.aligned.tracking ht
    rcases hl.phase with hl | hl <;> cases hl.symm.trans hp
  have hsame : (r.step server .turn).poller.phase ≠ r.poller.phase := by
    rw [hp, hp']
    decide
  simp only [Run.step] at hp' hsame ⊢
  cases ht : r.poller.turn r.now with
  | none => exact absurd (by rw [ht]; rfl) hsame
  | some p =>
    rw [ht] at hp' hsame
    cases turn_eq_some ht with
    | stop | submit => exact absurd rfl hsame
    | refused => cases hp'
    | accepted hd ht' =>
      obtain ⟨-, hn, -⟩ := h.aligned.submitting ht'
      rw [← length_starts] at hn
      exact ⟨by rw [← h.period_eq]; rfl, List.eq_nil_of_length_eq_zero hn⟩
    | ignore hd ht' | askCancel hd ht' | cancelled hd ht' => exact absurd ht' (hfollows _)
    | resume hd ht' | polled hd ht' | poll hd ht' => exact absurd ht' (hfollows _)

/-- The grid starts as the job is accepted. -/
theorem Ticked.accepted (h : Ticked server period r) (hp : r.poller.phase = .submitting)
    (hp' : (r.step server .turn).poller.phase = .polling) :
    Begun server (r.step server .turn).poller ∧
      OnGrid r.now period (r.step server .turn).poller ∧
      OnTime r.now period (r.step server .turn) := by
  obtain ⟨ht, hs⟩ := h.timing_of_accepted hp hp'
  have ha := (aligned_step r .turn h.aligned).1
  have hnow : (r.step server .turn).now = r.now := rfl
  generalize r.step server .turn = r' at *
  have hphase : r'.poller.state.value.phase = .polling := hp'
  have hnone : ∀ newer start older, r'.poller.starts ≠ newer ++ start :: older := by
    intro newer start older hsplit
    rw [hs] at hsplit
    exact absurd hsplit.symm (by simp)
  refine ⟨⟨ha, by simp [hphase]⟩,
    ⟨by simp [hp'], fun _ _ _ hsplit => absurd hsplit (hnone _ _ _), fun k f hk => ?_⟩,
    ⟨fun _ _ _ hsplit => absurd hsplit (hnone _ _ _), fun k f hk => ?_⟩⟩
  · cases ht.symm.trans hk
    exact ⟨rfl, 1, by rw [hs]; exact Nat.zero_lt_one, by rw [Nat.one_mul]⟩
  · cases ht.symm.trans hk
    refine ⟨rfl, by rw [hs, List.length_nil, Nat.zero_add, Nat.one_mul], fun _ => ?_⟩
    rw [hnow]
    exact Nat.le_add_right _ _

theorem exists_tracking_of_isFollowing {s : PollSettings} {p : Poller ρ}
    (hp : ofSettings s = .ok p) {es : List (Event ρ)}
    (h : ((start p).after server es).poller.isFollowing = true) :
    ((start p).after server es).poller.disposed = false ∧
      ∃ t, ((start p).after server es).poller.task = .tracking t := by
  obtain ⟨hd, hl⟩ : ((start p).after server es).poller.disposed = false ∧
      (((start p).after server es).poller.phase = .polling ∨
        ((start p).after server es).poller.phase = .cancelling) := by
    simpa [isFollowing] using h
  exact ⟨hd, exists_tracking hp hd hl⟩

/-- Polls are made one after the other. -/
theorem Ticked.one_at_a_time (h : Ticked server period r) (e : Event ρ) :
    ((r.step server e).poller.starts = r.poller.starts ∨
      (r.step server e).poller.starts = r.now :: r.poller.starts ∧ r.poller.isPolling = false) ∧
    (r.poller.awaitsAnswer = true → (r.step server e).poller.awaitsAnswer = true ∨
      e.isPollAnswer = true ∨ (r.step server e).poller.task = .ended) := by
  have awaits : r.poller.awaitsAnswer = true →
      ∃ k f, r.poller.timing? = some (k, some f) ∧ f.result = none := by
    intro ha
    unfold awaitsAnswer at ha
    split at ha
    · next k f ht => exact ⟨k, f, ht, Option.isNone_iff_eq_none.1 ha⟩
    · cases ha
  have htiming : Timing r.now e r.poller (r.step server e).poller := timing_step e h.aligned
  cases htiming with
  | accepted hp ht ht' hs =>
    refine ⟨.inl hs, fun ha => ?_⟩
    obtain ⟨k, f, hk, -⟩ := awaits ha
    cases ht.symm.trans hk
  | made ht hn ht' hf hs =>
    refine ⟨.inr ⟨hs, by rw [isPolling_eq, ht]; rfl⟩, fun ha => ?_⟩
    obtain ⟨k, f, hk, -⟩ := awaits ha
    cases ht.symm.trans hk
  | answered he ht ht' hf hs => exact ⟨.inl hs, fun _ => .inr (.inl he)⟩
  | taken ht hf ht' hs =>
    refine ⟨.inl hs, fun ha => ?_⟩
    obtain ⟨k, f, hk, hr⟩ := awaits ha
    cases ht.symm.trans hk
    rw [hr] at hf
    cases hf
  | ended ht' hs => exact ⟨.inl hs, fun _ => .inr (.inr ht')⟩
  | apart ht' hs =>
    refine ⟨.inl hs, fun ha => .inl ?_⟩
    rw [awaitsAnswer, ht']
    exact ha

/-- When a poll is answered, the next one is not far. -/
theorem Ticked.soon (h : Ticked server period r) (ha : r.poller.awaitsAnswer = true) :
    Begun server (r.step server .pollAnswered).poller ∧
      Soon r.now period r.poller.starts (r.step server .pollAnswered) := by
  unfold awaitsAnswer at ha
  split at ha
  · next k f hk =>
    obtain ⟨t, ht, rfl, hf⟩ := tracking_of_timing? hk
    obtain ⟨-, hdue⟩ := h.ticker _ _ hk
    have hp : (r.step server .pollAnswered).poller =
        { r.poller with
          task := .tracking
            { t with poll := some ⟨f.epoch, some (server.status r.poller.polls)⟩ } } := by
      simp only [Run.step, answer, ht, hf, Option.map_some]
    have ha := (aligned_step r .pollAnswered h.aligned).1
    obtain ⟨hl, -, -⟩ := h.aligned.tracking ht
    refine ⟨⟨ha, ?_⟩, ?_, fun newer s hs => ?_, fun _ k' g hk' => ?_⟩
    · rw [hp]
      rcases hl.phase with hl | hl <;> simp [hl]
    · rw [hp]
      exact List.suffix_refl _
    · have hs : r.poller.starts = newer ++ s :: r.poller.starts := by
        rw [hp] at hs
        exact hs
      have hlength := congrArg List.length hs
      simp only [List.length_append, List.length_cons] at hlength
      omega
    · rw [hp] at hk'
      cases hk'
      refine ⟨hdue, fun x hx => ?_, Nat.le_add_right _ _⟩
      cases hx
      rfl
  · cases ha

/-- How polls are made in the run `r` of a job that was accepted at `origin`, while `more` happens. -/
structure PollsOnGrid (server : Server) (origin period : Nat) (r : Run ρ)
    (more : List (Event ρ)) : Prop where
  /-- Each poll has an instant of the grid of its own, which it does not start before. -/
  own : ∀ newer start older, (r.after server more).poller.starts = newer ++ start :: older →
    origin + (older.length + 1) * period ≤ start
  /-- There are no more polls within some time than instants of the grid. -/
  rate : ∀ t, (r.after server more).poller.starts.countP (· ≤ origin + t) ≤ t / period
  /-- If the task is punctual and each poll is answered before the next one is due, polls start just
  at these instants. -/
  inTime : r.punctual server more = true → r.prompt server origin period more = true →
    ∀ newer start older, (r.after server more).poller.starts = newer ++ start :: older →
      start = origin + (older.length + 1) * period
  /-- Then no instant is left out. -/
  noneLeftOut : r.punctual server more = true → r.prompt server origin period more = true →
    let r' := r.after server more
    r'.poller.isFollowing = true → r'.poller.isPolling = false →
      r'.now ≤ origin + (r'.poller.polls + 1) * period

/-- How polls are made, from where a run stands and whatever comes next. -/
structure KeepsToGrid (server : Server) (period : Nat) (r : Run ρ) : Prop where
  /-- A poll only starts while none is under way. -/
  oneAtATime : ∀ e, (r.step server e).poller.starts = r.poller.starts ∨
    (r.step server e).poller.starts = r.now :: r.poller.starts ∧ r.poller.isPolling = false
  /-- A poll is under way until it is answered or the task ends. -/
  untilAnswered : ∀ e, r.poller.awaitsAnswer = true →
    (r.step server e).poller.awaitsAnswer = true ∨ e.isPollAnswer = true ∨
      (r.step server e).poller.task = .ended
  /-- The grid starts as the job is accepted. -/
  grid : r.poller.phase = .submitting → (r.step server .turn).poller.phase = .polling →
    ∀ more, PollsOnGrid server r.now period (r.step server .turn) more
  /-- If the task is punctual, a poll starts within a period after the one before was answered. -/
  soon : r.poller.awaitsAnswer = true → ∀ more,
    let r₀ := r.step server .pollAnswered
    r₀.punctual server more = true → ∀ newer start,
      (r₀.after server more).poller.starts = newer ++ start :: r.poller.starts →
        start ≤ r.now + period
  /-- As long as that poll has not started, no more than the period has passed. -/
  waiting : r.poller.awaitsAnswer = true → ∀ more,
    let r₀ := r.step server .pollAnswered
    let r' := r₀.after server more
    r₀.punctual server more = true → r'.poller.isFollowing = true →
      r'.poller.starts = r.poller.starts → r'.now ≤ r.now + period
  /-- Unless the poller is torn down, the next poll does start. -/
  starts : r.poller.isFollowing = true → r.poller.isPolling = false →
    ∃ later, Undisturbed later ∧ r.punctual server later = true ∧
      (r.after server later).poller.polls = r.poller.polls + 1

/-- The polls of a job that is accepted at the next turn. -/
theorem Ticked.pollsOnGrid (h : Ticked server period r) (hperiod : 0 < period)
    (hsub : r.poller.phase = .submitting) (hpoll : (r.step server .turn).poller.phase = .polling)
    {more : List (Event ρ)}
    (hfollows : ((r.step server .turn).after server more).poller.isFollowing = true →
      ∃ t, ((r.step server .turn).after server more).poller.task = .tracking t) :
    PollsOnGrid server r.now period (r.step server .turn) more := by
  obtain ⟨hb, hg, ht⟩ := h.accepted hsub hpoll
  have hgrid := onGrid_after hperiod hb hg more
  exact {
    own := hgrid.starts
    rate := countP_starts_le hperiod hgrid.starts
    inTime := fun hpunctual hprompt => (ht.after hb hpunctual hprompt).starts
    noneLeftOut := fun hpunctual hprompt hf hidle => by
      obtain ⟨t, htask⟩ := hfollows hf
      exact (ht.after hb hpunctual hprompt).now_le_of_idle htask hidle }

/-- The polls of a job are made on a grid that starts as the job is accepted, whatever the owner, the
server and the task of a poller do, and however late they are. -/
theorem polls_keep_to_grid (s : PollSettings) (h : 0 < s.intervalMs) (server : Server) :
    ∃ p : Poller ρ, ofSettings s = .ok p ∧ ∀ es : List (Event ρ),
      KeepsToGrid server s.intervalMs.toNat ((start p).after server es) := by
  obtain ⟨p, hp⟩ := ofSettings_of_pos (ρ := ρ) h
  refine ⟨p, hp, fun es => ?_⟩
  have hperiod : 0 < s.intervalMs.toNat := UInt64.lt_iff_toNat_lt.1 h
  have hk := ticked_after server hp es
  have follows : ∀ e more,
      ((((start p).after server es).step server e).after server more).poller.isFollowing = true →
      ∃ t, ((((start p).after server es).step server e).after server more).poller.task =
        .tracking t := by
    intro e more hf
    have hsplit := after_append server (start p) es (e :: more)
    rw [after_cons] at hsplit
    rw [← hsplit] at hf ⊢
    exact (exists_tracking_of_isFollowing hp hf).2
  exact {
    oneAtATime := fun e => (hk.one_at_a_time e).1
    untilAnswered := fun e => (hk.one_at_a_time e).2
    grid := fun hsub hpoll more => hk.pollsOnGrid hperiod hsub hpoll (follows .turn more)
    soon := fun ha more hpunctual => by
      obtain ⟨hb, hsoon⟩ := hk.soon ha
      exact (hsoon.after hb hpunctual).next
    waiting := fun ha more hpunctual hf hstarts => by
      obtain ⟨hb, hsoon⟩ := hk.soon ha
      obtain ⟨t, htask⟩ := follows .pollAnswered more hf
      have hafter := hsoon.after hb hpunctual
      exact (hafter.waiting hstarts _ _ (timing?_of_tracking htask)).2.2
    starts := fun hf hidle => by
      obtain ⟨hd, t, htask⟩ := exists_tracking_of_isFollowing hp hf
      refine exists_start hd htask ?_
      simpa [isPolling, htask] using hidle }

/-- A server at which a job runs on and on. -/
def running : Server where
  submission := .ok "job-1"
  status _ := .ok { jobId := "job-1", status := .running }
  cancel _ := .ok ()

/-- The job is submitted and accepted at once; the task has yet to hear of it. -/
def submitted : List (Event String) :=
  [.submit "scan", .turn, .submissionAnswered]

/-- Two polls that are answered in time, and a third one that takes more than two periods. -/
def answeredLate : List (Event String) :=
  [.pass 1000, .turn, .pass 400, .pollAnswered, .turn, .pass 600, .turn, .pollAnswered, .turn,
    .pass 1000, .turn, .pass 2300, .pollAnswered, .turn, .turn, .pollAnswered, .turn, .pass 700]

/-- After a late answer a poll is made at once, and the next one on the grid again. -/
theorem polls_keep_to_grid_late :
    (0 : UInt64) < ({} : PollSettings).intervalMs ∧
      ∃ p : Poller String, ofSettings {} = .ok p ∧
        let r := (start p).after running submitted
        let r₀ := r.step running .turn
        r.poller.phase = .submitting ∧ r₀.poller.phase = .polling ∧
        r₀.punctual running answeredLate = true ∧
        (r₀.after running answeredLate).poller.starts = [5300, 3000, 2000, 1000] ∧
        (r₀.after running answeredLate).poller.starts.countP (· ≤ 0 + 5400) ≤ 5400 / 1000 ∧
        r₀.prompt running 0 1000 (answeredLate.take 10) = true ∧
        (r₀.after running (answeredLate.take 10)).poller.starts = [2000, 1000] := by
  obtain ⟨p, hp, h⟩ := polls_keep_to_grid (ρ := String) {} (by decide) running
  have hkeeps := h submitted
  refine ⟨by decide, p, hp, ?_⟩
  cases hp
  exact ⟨rfl, rfl, rfl, rfl, (hkeeps.grid rfl rfl answeredLate).rate 5400, rfl, rfl⟩

end Run

end BackendMonitor.Poller
