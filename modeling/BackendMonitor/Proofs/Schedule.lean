import BackendMonitor.Schedule

/-!
# Machines that come to rest

* `Tiring`: a machine that has less to do after every turn comes to rest (`Tiring.rests`). Of two
  runs that look the same, and in which no turn is seen but those that look the same too, the states
  at rest look the same (`Tiring.view_runTurns`).
* `Restful`: a machine to which at rest nothing happens before the instant that it waits for. Then
  to let time pass is to let it run at every instant (`Restful.passTime_eq`), whatever instants it
  waited for.
-/

namespace BackendMonitor.Schedule

variable {σ : Type} {turn : σ → Option σ} {s s' : σ}

/-! ## Turns -/

/-- A machine without a turn to take takes none. -/
theorem runTurns_of_none (h : turn s = none) (limit : Nat) : runTurns turn limit s = s := by
  cases limit with
  | zero => rfl
  | succ limit => rw [runTurns, h]

theorem runTurns_of_some (h : turn s = some s') (limit : Nat) :
    runTurns turn (limit + 1) s = runTurns turn limit s' := by
  rw [runTurns, h]

/-- What every turn keeps holds after all turns. -/
theorem runTurns_induction (motive : σ → Prop)
    (hturn : ∀ s s', turn s = some s' → motive s → motive s') (limit : Nat) (hs : motive s) :
    motive (runTurns turn limit s) := by
  induction limit generalizing s with
  | zero => exact hs
  | succ limit ih =>
    cases ht : turn s with
    | none => rwa [runTurns_of_none ht]
    | some s' =>
      rw [runTurns_of_some ht]
      exact ih (hturn s s' ht hs)

/-- What makes no difference for one turn makes none for all. -/
theorem runTurns_map {f : σ → σ} (hf : ∀ s, turn (f s) = (turn s).map f) (limit : Nat) (s : σ) :
    runTurns turn limit (f s) = f (runTurns turn limit s) := by
  induction limit generalizing s with
  | zero => rfl
  | succ limit ih =>
    cases ht : turn s with
    | none =>
      have ht' : turn (f s) = none := by rw [hf, ht]; rfl
      rw [runTurns_of_none ht, runTurns_of_none ht']
    | some s' =>
      have ht' : turn (f s) = some (f s') := by rw [hf, ht]; rfl
      rw [runTurns_of_some ht, runTurns_of_some ht', ih]

/-- What is done before every turn can also be done after it. -/
theorem map_runTurns {f : σ → σ} (hf : ∀ s, turn (f s) = turn s) (limit : Nat) (s : σ) :
    f (runTurns turn limit s) = runTurns (fun s => (turn s).map f) limit (f s) := by
  induction limit generalizing s with
  | zero => rfl
  | succ limit ih =>
    cases ht : turn s with
    | none =>
      have ht' : (turn (f s)).map f = none := by rw [hf, ht]; rfl
      have hr : runTurns (fun s => (turn s).map f) (limit + 1) (f s) = f s :=
        runTurns_of_none ht' _
      rw [runTurns_of_none ht, hr]
    | some s' =>
      have ht' : (turn (f s)).map f = some (f s') := by rw [hf, ht]; rfl
      have hr : runTurns (fun s => (turn s).map f) (limit + 1) (f s) =
          runTurns (fun s => (turn s).map f) limit (f s') := runTurns_of_some ht' _
      rw [runTurns_of_some ht, hr, ih]

/-- Every turn of a machine in a state with `inv` leaves it with less to do, and with `inv`. -/
structure Tiring (turn : σ → Option σ) (inv : σ → Prop) (load : σ → Nat) : Prop where
  keeps : ∀ s s', turn s = some s' → inv s → inv s'
  tires : ∀ s s', turn s = some s' → inv s → load s' < load s

namespace Tiring

variable {inv : σ → Prop} {load : σ → Nat}

/-- A machine that has less to do after every turn comes to rest. -/
theorem rests (h : Tiring turn inv load) {limit : Nat} (hs : inv s) (hl : load s ≤ limit) :
    turn (runTurns turn limit s) = none := by
  induction limit generalizing s with
  | zero =>
    cases ht : turn s with
    | none => exact ht
    | some s' => have := h.tires s s' ht hs; omega
  | succ limit ih =>
    cases ht : turn s with
    | none => rwa [runTurns_of_none ht]
    | some s' =>
      rw [runTurns_of_some ht]
      have := h.tires s s' ht hs
      exact ih (h.keeps s s' ht hs) (by omega)

/-- Two machines that look the same look the same at rest, if a turn is either not seen at all or
leads to what it leads to from the look of the machine. -/
theorem view_runTurns (h : Tiring turn inv load) {view : σ → σ}
    (hview : ∀ s, inv s → (∃ s', turn s = some s' ∧ view s' = view s) ∨
      (turn s).map view = (turn (view s)).map view)
    {s₁ s₂ : σ} (h₁ : inv s₁) (h₂ : inv s₂) (hv : view s₁ = view s₂) {n₁ n₂ : Nat}
    (hn₁ : load s₁ ≤ n₁) (hn₂ : load s₂ ≤ n₂) :
    view (runTurns turn n₁ s₁) = view (runTurns turn n₂ s₂) := by
  -- each turn, of either machine, takes one of the turns that are left
  induction hn : n₁ + n₂ using Nat.strongRecOn generalizing n₁ n₂ s₁ s₂ with
  | ind n ih =>
    subst hn
    have left : ∀ {s n} {s' : σ}, turn s = some s' → inv s → load s ≤ n →
        ∃ m, n = m + 1 ∧ load s' ≤ m := by
      intro s n s' ht hi hl
      have := h.tires s s' ht hi
      exact ⟨n - 1, by omega, by omega⟩
    rcases hview s₁ h₁ with ⟨s₁', ht₁, hs₁⟩ | hs₁
    · obtain ⟨m₁, rfl, hm₁⟩ := left ht₁ h₁ hn₁
      rw [runTurns_of_some ht₁]
      exact ih _ (by omega) (h.keeps _ _ ht₁ h₁) h₂ (hs₁.trans hv) hm₁ hn₂ rfl
    · rcases hview s₂ h₂ with ⟨s₂', ht₂, hs₂⟩ | hs₂
      · obtain ⟨m₂, rfl, hm₂⟩ := left ht₂ h₂ hn₂
        rw [runTurns_of_some ht₂]
        exact ih _ (by omega) h₁ (h.keeps _ _ ht₂ h₂) (hv.trans hs₂.symm) hn₁ hm₂ rfl
      · have hs : (turn s₁).map view = (turn s₂).map view := by rw [hs₁, hs₂, hv]
        cases ht₁ : turn s₁ with
        | none =>
          rw [ht₁] at hs
          have ht₂ := Option.map_eq_none_iff.1 hs.symm
          rw [runTurns_of_none ht₁, runTurns_of_none ht₂, hv]
        | some s₁' =>
          rw [ht₁] at hs
          obtain ⟨s₂', ht₂, hs'⟩ := Option.map_eq_some_iff.1 hs.symm
          obtain ⟨m₁, rfl, hm₁⟩ := left ht₁ h₁ hn₁
          obtain ⟨m₂, rfl, hm₂⟩ := left ht₂ h₂ hn₂
          rw [runTurns_of_some ht₁, runTurns_of_some ht₂]
          exact ih _ (by omega) (h.keeps _ _ ht₁ h₁) (h.keeps _ _ ht₂ h₂) hs'.symm hm₁ hm₂ rfl

end Tiring

/-! ## Time -/

/-- Lets a machine run at the instant `now`, and at each of the next `n`. -/
def everyInstant (run : Nat → σ → σ) : Nat → Nat → σ → σ
  | 0, now, s => run now s
  | n + 1, now, s => everyInstant run n (now + 1) (run now s)

variable {due? : σ → Option Nat} {run : Nat → σ → σ} {now target : Nat}

/-- What every run of the machine keeps holds when time has passed. -/
theorem passTime_induction (motive : σ → Prop) (hrun : ∀ now s, motive s → motive (run now s))
    (limit now : Nat) (hs : motive s) : motive (passTime due? run target limit now s) := by
  induction limit generalizing now s with
  | zero => exact hrun target s hs
  | succ limit ih =>
    unfold passTime
    split
    · split
      · exact ih _ (hrun _ s hs)
      · exact hrun target s hs
    · exact hrun target s hs

theorem everyInstant_congr (h : run now s = run now s') (n : Nat) :
    everyInstant run n now s = everyInstant run n now s' := by
  cases n with
  | zero => exact h
  | succ n => rw [everyInstant, everyInstant, h]

/-- What holds of a machine that rests, as `AtRest` says, at some instant. -/
structure Restful (due? : σ → Option Nat) (run : Nat → σ → σ) (AtRest : Nat → σ → Prop) :
    Prop where
  rests : ∀ {now later s}, AtRest now s → now ≤ later → AtRest later (run later s)
  /-- To let it run makes no difference. -/
  again : ∀ {now later s}, AtRest now s → now ≤ later → run later (run now s) = run later s
  twice : ∀ {now later s}, AtRest now s → now ≤ later →
    run later (run later s) = run later s
  due : ∀ {now s d}, AtRest now s → due? s = some d → now < d
  /-- It rests until something is due. -/
  stays : ∀ {now later s}, AtRest now s → now ≤ later → (∀ d, due? s = some d → later < d) →
    AtRest later s

namespace Restful

variable {AtRest : Nat → σ → Prop}

/-- The instants at which a machine rests can be left out. -/
theorem everyInstant_add (h : Restful due? run AtRest) {k : Nat}
    (hs : ∀ t, now ≤ t → t < now + k → AtRest t s) (n : Nat) :
    everyInstant run (k + n) now s = everyInstant run n (now + k) s := by
  induction k generalizing now with
  | zero => rw [Nat.zero_add, Nat.add_zero]
  | succ k ih =>
    have hr : AtRest now s := hs now (Nat.le_refl _) (by omega)
    rw [show k + 1 + n = k + n + 1 by omega, everyInstant,
      everyInstant_congr (h.again hr (Nat.le_succ now)), show now + (k + 1) = now + 1 + k by omega]
    exact ih fun t h₁ h₂ => hs t (by omega) (by omega)

/-- Time that passes after other time passes with it. -/
theorem everyInstant_everyInstant (h : Restful due? run AtRest) {t : Nat} (hs : AtRest t s)
    (ht : t ≤ now) (m n : Nat) :
    everyInstant run n (now + m) (everyInstant run m now s) = everyInstant run (m + n) now s := by
  induction m generalizing t now s with
  | zero => rw [everyInstant, Nat.zero_add, Nat.add_zero, everyInstant_congr (h.twice hs ht)]
  | succ m ih =>
    rw [everyInstant, show now + (m + 1) = now + 1 + m by omega,
      show m + 1 + n = m + n + 1 by omega, everyInstant]
    exact ih (h.rests hs ht) (Nat.le_succ now)

/-- To let time pass is to let the machine run at every instant. -/
theorem passTime_eq (h : Restful due? run AtRest) {limit : Nat} (hs : AtRest now s)
    (hn : now ≤ target) (hl : target - now ≤ limit) :
    passTime due? run target limit now s = everyInstant run (target - now) now s := by
  induction limit generalizing now s with
  | zero =>
    obtain rfl : now = target := by omega
    rw [Nat.sub_self]
    rfl
  | succ limit ih =>
    -- nothing happens before the next instant at which something is due, or else the target
    have skip : ∀ t, now ≤ t → t ≤ target → (∀ d, due? s = some d → t ≤ d) →
        everyInstant run (target - now) now s = everyInstant run (target - t) t s := by
      intro t h₁ h₂ hd
      have ht := h.everyInstant_add (k := t - now) (s := s)
        (fun t' h₃ h₄ => h.stays hs h₃ fun d hd' => by have := hd d hd'; omega) (target - t)
      rwa [show t - now + (target - t) = target - now by omega,
        show now + (t - now) = t by omega] at ht
    have wait : (∀ d, due? s = some d → target ≤ d) →
        run target s = everyInstant run (target - now) now s := by
      intro hd
      rw [skip target hn (Nat.le_refl _) hd, Nat.sub_self]
      rfl
    unfold passTime
    split
    · next d hd =>
      have hnd := h.due hs hd
      split
      · next hi =>
        simp only [Bool.and_eq_true, decide_eq_true_eq] at hi
        rw [ih (h.rests hs (Nat.le_of_lt hnd)) (Nat.le_of_lt hi.2) (by omega),
          everyInstant_congr (h.twice hs (Nat.le_of_lt hnd)),
          skip d (Nat.le_of_lt hnd) (Nat.le_of_lt hi.2) fun d' hd' => by
            cases hd.symm.trans hd'
            exact Nat.le_refl _]
      · next hi =>
        refine wait fun d' hd' => ?_
        cases hd.symm.trans hd'
        simp only [Bool.and_eq_true, decide_eq_true_eq, not_and, Nat.not_lt] at hi
        exact hi hnd
    · next hd =>
      refine wait fun d' hd' => ?_
      cases hd.symm.trans hd'

end Restful

end BackendMonitor.Schedule
