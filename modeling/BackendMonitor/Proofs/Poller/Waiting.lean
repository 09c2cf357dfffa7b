import BackendMonitor.Proofs.Poller.Notices
import BackendMonitor.Proofs.Poller.Teardown

/-!
# Waiting for the end of a job

One who waits for the end of a job looks at the poller whenever there is time for it, until a look
finds that the poller was torn down, or that the job is over (`Moment`, `Run.told?`). A look asks
first whether the poller was torn down. So the end of a job is told to one who looks between the end
and the teardown, and lost on one who looks later, although it was published in time.

* `Run.Finds`: that one of the looks finds something;
* `Run.told?_eq_ended_iff`, `Run.told?_eq_disposed_iff`: what the looks find, and what is told;
* `Run.end_is_told_between_end_and_teardown`: all of it, for every run and every wait;
* `Run.end_is_lost_after_teardown`: a job that was over before the poller was disposed.
-/

namespace BackendMonitor.Poller

variable {ρ : Type}

/-! ## One look -/

theorem waited?_eq_disposed_iff {p : Poller ρ} :
    p.waited? = some .disposed ↔ p.disposed = true := by
  unfold waited?
  split
  · next hd => simp [hd]
  · next hd => split <;> simp [hd]

theorem waited?_eq_ended_iff {p : Poller ρ} {state : PollerState} :
    p.waited? = some (.ended state) ↔
      p.disposed = false ∧ p.phase.isTerminal = true ∧ p.state.value = state := by
  unfold waited?
  split
  · next hd => simp [hd]
  · next hd => split <;> simp_all

/-! ## Waiting -/

/-- What happens from the moment on at which someone starts to wait. -/
inductive Moment (ρ : Type) where
  | event (e : Event ρ)
  /-- The one who waits gets to run, and looks at the poller. -/
  | look

/-- What happens to the poller, if anything does. -/
def Moment.event? : Moment ρ → Option (Event ρ)
  | .event e => some e
  | .look => none

/-- What happens to the poller in the meantime. -/
def events (ms : List (Moment ρ)) : List (Event ρ) :=
  ms.filterMap Moment.event?

namespace Run

/-- What the one who waits is told, if the wait is over: what the first look finds that finds
anything. -/
def told? (server : Server) (r : Run ρ) : List (Moment ρ) → Option Waited
  | [] => none
  | .event e :: ms => told? server (r.step server e) ms
  | .look :: ms => r.poller.waited?.or (told? server r ms)

/-- One of the looks finds something out. -/
def Finds (server : Server) (r : Run ρ) (ms : List (Moment ρ)) (w : Waited) : Prop :=
  ∃ front back, ms = front ++ .look :: back ∧
    (r.after server (events front)).poller.waited? = some w

variable {server : Server} {r : Run ρ}

theorem not_finds_nil (w : Waited) : ¬ Finds server r [] w := by
  rintro ⟨front, back, h, -⟩
  cases front <;> cases h

theorem finds_event {e : Event ρ} {ms : List (Moment ρ)} {w : Waited} :
    Finds server r (.event e :: ms) w ↔ Finds server (r.step server e) ms w := by
  constructor
  · rintro ⟨front, back, h, hw⟩
    cases front with
    | nil => cases h
    | cons m front =>
      injection h with hm h
      subst hm
      exact ⟨front, back, h, hw⟩
  · rintro ⟨front, back, rfl, hw⟩
    exact ⟨.event e :: front, back, rfl, hw⟩

theorem finds_look {ms : List (Moment ρ)} {w : Waited} :
    Finds server r (.look :: ms) w ↔ r.poller.waited? = some w ∨ Finds server r ms w := by
  constructor
  · rintro ⟨front, back, h, hw⟩
    cases front with
    | nil => exact .inl hw
    | cons m front =>
      injection h with hm h
      subst hm
      exact .inr ⟨front, back, h, hw⟩
  · rintro (hw | ⟨front, back, rfl, hw⟩)
    · exact ⟨[], ms, rfl, hw⟩
    · exact ⟨.look :: front, back, rfl, hw⟩

/-! ## What is never taken back -/

theorem disposed_after (hd : r.poller.disposed = true) (es : List (Event ρ)) :
    (r.after server es).poller.disposed = true :=
  ((Over.refl hd).after es).disposed

/-- Once the poller was torn down all looks find just that. -/
theorem Finds.eq_disposed {ms : List (Moment ρ)} {w : Waited} (h : Finds server r ms w)
    (hd : r.poller.disposed = true) : w = .disposed := by
  obtain ⟨front, -, -, hw⟩ := h
  have hd' : (r.after server (events front)).poller.waited? = some .disposed :=
    waited?_eq_disposed_iff.2 (disposed_after hd _)
  exact Option.some.inj (hw.symm.trans hd')

/-- Once the job is over looks find how it ended, or that the poller was torn down. -/
theorem Finds.eq_ended {ms : List (Moment ρ)} {state : PollerState}
    (h : Finds server r ms (.ended state)) (hs : Sound server r)
    (hp : r.poller.phase.isTerminal = true) : r.poller.state.value = state := by
  obtain ⟨front, -, -, hw⟩ := h
  rw [← (waited?_eq_ended_iff.1 hw).2.2, hs.state_after hp]

/-- The end of the job is told if any of the looks finds it. -/
theorem told?_eq_ended_iff (hs : Sound server r) {ms : List (Moment ρ)} {state : PollerState} :
    r.told? server ms = some (.ended state) ↔ Finds server r ms (.ended state) := by
  induction ms generalizing r with
  | nil => exact ⟨fun h => (by cases h), fun h => absurd h (not_finds_nil _)⟩
  | cons m ms ih =>
    cases m with
    | event e => rw [finds_event]; exact ih (hs.step e)
    | look =>
      rw [finds_look, told?]
      cases hw : r.poller.waited? with
      | none => simpa using ih hs
      | some w =>
        cases w with
        | disposed =>
          have hd := waited?_eq_disposed_iff.1 hw
          refine ⟨fun h => (by cases h), fun h => ?_⟩
          rcases h with h | h
          · cases h
          · cases h.eq_disposed hd
        | ended state' =>
          obtain ⟨-, hp, hv⟩ := waited?_eq_ended_iff.1 hw
          refine ⟨fun h => .inl h, fun h => ?_⟩
          rcases h with h | h
          · exact h
          · rw [Option.some_or, ← hv, h.eq_ended hs hp]

/-- That the poller was torn down is told if a look finds it, and none found the end of the job. -/
theorem told?_eq_disposed_iff {ms : List (Moment ρ)} :
    r.told? server ms = some .disposed ↔
      Finds server r ms .disposed ∧ ∀ state, ¬ Finds server r ms (.ended state) := by
  induction ms generalizing r with
  | nil => exact ⟨fun h => (by cases h), fun h => absurd h.1 (not_finds_nil _)⟩
  | cons m ms ih =>
    cases m with
    | event e => simp only [finds_event]; exact ih
    | look =>
      simp only [finds_look]
      rw [told?]
      cases hw : r.poller.waited? with
      | none => simpa using ih
      | some w =>
        cases w with
        | disposed =>
          refine ⟨fun _ => ⟨.inl rfl, fun state h => ?_⟩, fun _ => rfl⟩
          rcases h with h | h
          · cases h
          · cases h.eq_disposed (waited?_eq_disposed_iff.1 hw)
        | ended state =>
          exact ⟨fun h => (by cases h), fun h => absurd (.inl rfl) (h.2 state)⟩

/-! ## What was published -/

/-- The poller is in a terminal state just when observers were told of that state. -/
theorem ended_iff_published (hx : Exact server r.poller.state) {state : PollerState} :
    r.poller.phase.isTerminal = true ∧ r.poller.state.value = state ↔
      state.phase.isTerminal = true ∧ state ∈ r.poller.state.published := by
  constructor
  · rintro ⟨ht, rfl⟩
    obtain ⟨last, hlast, hb⟩ := hx.current
    obtain rfl := hb.eq_of_isTerminal ht
    refine ⟨ht, ?_⟩
    rw [statesSeen_eq, List.head?_append] at hlast
    cases hh : r.poller.state.published.head? with
    | some first =>
      rw [hh] at hlast
      exact List.mem_of_mem_head? (hh.trans hlast)
    | none =>
      rw [hh] at hlast
      obtain hv : {} = r.poller.state.value := Option.some.inj hlast
      rw [phase, ← hv] at ht
      cases ht
  · rintro ⟨ht, hm⟩
    obtain ⟨-, rfl⟩ := hx.last hm ht
    exact ⟨ht, rfl⟩

/-- A look finds the end of the job if it was published, and the poller not torn down. -/
theorem finds_ended_iff {s : PollSettings} {p : Poller ρ} (hp : ofSettings s = .ok p)
    (before : List (Event ρ)) (ms : List (Moment ρ)) (state : PollerState) :
    let r := (start p).after server before
    Finds server r ms (.ended state) ↔ state.phase.isTerminal = true ∧
      ∃ front back, ms = front ++ .look :: back ∧
        state ∈ (r.after server (events front)).poller.state.published ∧
        (r.after server (events front)).poller.disposed = false := by
  intro r
  have key (front : List (Moment ρ)) :
      (r.after server (events front)).poller.waited? = some (.ended state) ↔
        state.phase.isTerminal = true ∧
          state ∈ (r.after server (events front)).poller.state.published ∧
          (r.after server (events front)).poller.disposed = false := by
    have hx : Exact server (r.after server (events front)).poller.state := by
      rw [← after_append]
      exact exact_after server hp _
    rw [waited?_eq_ended_iff, ended_iff_published hx]
    tauto
  constructor
  · rintro ⟨front, back, rfl, hw⟩
    obtain ⟨ht, hm, hd⟩ := (key front).1 hw
    exact ⟨ht, front, back, rfl, hm, hd⟩
  · rintro ⟨ht, front, back, rfl, hm, hd⟩
    exact ⟨front, back, rfl, (key front).2 ⟨ht, hm, hd⟩⟩

/-- Whatever happens to a poller, whenever someone starts to wait for the end of its job, and however
late the looks come:

* a state is told just when it is terminal, and one of the looks comes after it was published and
  before the poller is torn down;
* that the poller was torn down is told just when a look comes after that, and none came in time for
  the end of the job. That the end was published before the teardown does not help then;
* a terminal state that was published is the only one, and the state of the poller from then on. -/
theorem end_is_told_between_end_and_teardown (s : PollSettings) (h : 0 < s.intervalMs)
    (server : Server) :
    ∃ p : Poller ρ, ofSettings s = .ok p ∧
      ∀ (before : List (Event ρ)) (ms : List (Moment ρ)),
        let r := (start p).after server before
        let reached (front : List (Moment ρ)) := (r.after server (events front)).poller
        let inTime (state : PollerState) := state.phase.isTerminal = true ∧
          ∃ front back, ms = front ++ .look :: back ∧ state ∈ (reached front).state.published ∧
            (reached front).disposed = false
        (∀ state, r.told? server ms = some (.ended state) ↔ inTime state) ∧
        (r.told? server ms = some .disposed ↔
          (∃ front back, ms = front ++ .look :: back ∧ (reached front).disposed = true) ∧
            ∀ state, ¬ inTime state) ∧
        ∀ state ∈ (reached ms).state.published, state.phase.isTerminal = true →
          (reached ms).state.value = state ∧
            ∀ other ∈ (reached ms).state.published, other.phase.isTerminal = true → other = state := by
  obtain ⟨p, hp⟩ := ofSettings_of_pos (ρ := ρ) h
  refine ⟨p, hp, fun before ms => ?_⟩
  intro r reached inTime
  have hs : Sound server r := (sound_start server hp).after before
  have hin (state : PollerState) : Finds server r ms (.ended state) ↔ inTime state :=
    finds_ended_iff hp before ms state
  refine ⟨fun state => (told?_eq_ended_iff hs).trans (hin state), ?_, fun state hm ht => ?_⟩
  · simp only [told?_eq_disposed_iff, ← hin]
    simp only [Finds, waited?_eq_disposed_iff]
    exact Iff.rfl
  · have hx : Exact server (reached ms).state := by
      simp only [reached, r, ← after_append]
      exact exact_after server hp _
    obtain ⟨hh, hv⟩ := hx.last hm ht
    refine ⟨hv, fun other hm' ht' => ?_⟩
    exact Option.some.inj ((hx.last hm' ht').1.symm.trans hh)

/-- The job is accepted. -/
def scanAccepted : List (Event String) :=
  [.submit "scan", .turn, .submissionAnswered, .turn]

/-- The first poll is made and answered. -/
def firstPoll : List (Event String) :=
  [.pass 1000, .turn, .pollAnswered, .turn]

/-- One look comes too early, one in time, and one too late. -/
theorem end_is_told_between_end_and_teardown_thirdLook :
    (0 : UInt64) < ({} : PollSettings).intervalMs ∧
      ∃ p : Poller String, ofSettings {} = .ok p ∧
        ∃ state, state.phase = .completed ∧
          ((start p).after finished scanAccepted).told? finished
            (.look :: firstPoll.map .event ++ [.look, .event .dispose, .look]) =
              some (.ended state) := by
  obtain ⟨p, hp, h⟩ :=
    end_is_told_between_end_and_teardown (ρ := String) {} (by decide) finished
  refine ⟨by decide, p, hp, ?_⟩
  cases hp
  refine ⟨_, ?_, ((h scanAccepted _).1 _).2 ⟨rfl, .look :: firstPoll.map .event, _, rfl,
    List.mem_cons_self .., rfl⟩⟩
  rfl

/-- The job is over and its end published before the poller is disposed. But one who waited all the
time, and looks after that, is told that the poller was disposed, and so is one who starts to wait
then. -/
theorem end_is_lost_after_teardown :
    ∃ p : Poller String, ofSettings {} = .ok p ∧
      let r := (start p).after finished (scanAccepted ++ firstPoll)
      r.poller.disposed = false ∧
      (∃ state ∈ r.poller.state.published, state.phase = .completed) ∧
      ((start p).after finished scanAccepted).told? finished
        (.look :: firstPoll.map .event ++ [.event .dispose, .look]) = some .disposed ∧
      (r.after finished [.dispose]).told? finished [.look] = some .disposed :=
  ⟨_, rfl, rfl, ⟨_, List.mem_cons_self .., rfl⟩, rfl, rfl⟩

end Run

end BackendMonitor.Poller
