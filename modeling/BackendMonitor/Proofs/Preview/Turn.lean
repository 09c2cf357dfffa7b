import BackendMonitor.Preview
import BackendMonitor.Proofs.Debounce.Turn

/-!
# Turns of a program that shows previews

What one turn of the loop does (`Turn`, `turn_eq_some`), with what it looked at, and what the loop
waits for when it has none to take (`Waits`, `waits_of_turn_eq_none`).
-/

namespace BackendMonitor.Preview

open Json

/-! ## Input -/

namespace Input

/-- Whether the input goes on. -/
def isLine : Input → Bool
  | .line _ => true
  | .ended => false

/-- Whether what the input brings can be read. -/
def isText : Input → Bool
  | .line bytes => (Text.Utf8.text? (withoutEnd bytes)).isSome
  | .ended => true

/-- The parameters that the input brings. Lines without parameters are passed over. -/
def parameters? : Input → Option Value
  | .line bytes => (Text.Utf8.text? (withoutEnd bytes)).bind Preview.parameters?
  | .ended => none

end Input

/-- Whether the loop goes on. -/
def Stage.isLooping : Stage → Bool
  | .reading | .draining => true
  | _ => false

/-- Whether something has settled that the loop has not looked at. -/
def hasNews (p : Preview) : Bool :=
  p.noticed < p.pipeline.settled.count

/-- The input that the loop takes with its next turn. -/
def taken? (p : Preview) : Option Input :=
  if p.stage = .reading && !p.interrupted && !p.hasNews then p.input.head? else none

/-! A preview of what has settled is of no concern to the pipeline and to the input. -/

section OnSettled

variable {now : Nat} {p : Preview}

@[simp] theorem pipeline_onSettled : (p.onSettled now).pipeline = p.pipeline := by
  simp only [onSettled]; split <;> rfl

@[simp] theorem input_onSettled : (p.onSettled now).input = p.input := by
  simp only [onSettled]; split <;> rfl

@[simp] theorem interrupted_onSettled : (p.onSettled now).interrupted = p.interrupted := by
  simp only [onSettled]; split <;> rfl

@[simp] theorem stage_onSettled : (p.onSettled now).stage = p.stage := by
  simp only [onSettled]; split <;> rfl

end OnSettled

/-! ## Turns -/

/-- What one turn of the loop does at the instant `now`. -/
inductive Turn (now : Nat) (p : Preview) : Preview → Prop where
  /-- No preview is waited for any longer. -/
  | leave (ht : p.taken? = none) (hs : p.stage = .finishing) (hu : p.underWay = false) :
      Turn now p { p with stage := .ended }
  | interrupted (ht : p.taken? = none) (hs : p.stage.isLooping = true) (hi : p.interrupted = true) :
      Turn now p p.finish
  /-- Parameters have settled. -/
  | ask (ht : p.taken? = none) (hs : p.stage.isLooping = true) (hi : p.interrupted = false)
      (hn : p.hasNews = true) : Turn now p ((p.onSettled now).wait now)
  /-- A line cannot be read. -/
  | fail {i : Input} {rest : List Input} {reason : String} (ht : p.taken? = some i)
      (hi : i.isText = false) (hq : p.input = i :: rest) :
      Turn now p { p with input := rest, stage := .failed reason, waitingSince := now }
  /-- A line without parameters is passed over. -/
  | skip {i : Input} {rest : List Input} (ht : p.taken? = some i) (hl : i.isLine = true)
      (hi : i.isText = true) (hv : i.parameters? = none) (hq : p.input = i :: rest) :
      Turn now p { p with input := rest, waitingSince := now }
  | update {i : Input} {rest : List Input} {v : Value} (ht : p.taken? = some i)
      (hl : i.isLine = true) (hi : i.isText = true) (hv : i.parameters? = some v)
      (hq : p.input = i :: rest) :
      Turn now p { p with
        input := rest, waitingSince := now, pipeline := p.pipeline.update now (some v) }
  /-- The input is over. -/
  | drain {rest : List Input} (ht : p.taken? = some .ended) (hq : p.input = .ended :: rest) :
      Turn now p { p with input := rest, stage := .draining, waitingSince := now }
  /-- The wait after the input is over. -/
  | drained (ht : p.taken? = none) (hs : p.stage = .draining) (hi : p.interrupted = false)
      (hn : p.hasNews = false) (hd : p.drained ≤ now) : Turn now p p.finish

variable {now : Nat} {p q : Preview}

theorem taken?_of_not_reading (h : p.stage ≠ .reading) : p.taken? = none := by
  simp [taken?, h]

theorem taken?_of_hasNews (h : p.hasNews = true) : p.taken? = none := by
  simp [taken?, h]

theorem reading_of_taken? {i : Input} (h : p.taken? = some i) : p.stage = .reading :=
  Decidable.byContradiction fun hs => by
    rw [taken?_of_not_reading hs] at h
    cases h

theorem turn_of_input {i : Input} {rest : List Input} (ht : p.taken? = some i)
    (hq : p.input = i :: rest) : Turn now p (({ p with input := rest }.onInput now i).wait now) := by
  cases i with
  | ended => exact .drain ht hq
  | line bytes =>
    simp only [onInput, onLine]
    split
    · next htext => exact .fail ht (by simp [Input.isText, htext]) hq
    · next line htext =>
      have hi : (Input.line bytes).isText = true := by simp [Input.isText, htext]
      have hv : (Input.line bytes).parameters? = Preview.parameters? line := by
        simp [Input.parameters?, htext]
      split
      · next hp => exact .skip ht rfl hi (hv.trans hp) hq
      · next v hp => exact .update ht rfl hi (hv.trans hp) hq

theorem turn_eq_some (h : p.turn now = some q) : Turn now p q := by
  unfold turn at h
  split at h
  · cases h
  · cases h
  · next hs =>
    split at h
    · cases h
    · next hu => cases h; exact .leave (taken?_of_not_reading (by simp [hs])) hs (by simpa using hu)
  · next h₁ h₂ h₃ =>
    have hs : p.stage.isLooping = true := by
      cases hp : p.stage with
      | reading | draining => rfl
      | finishing => exact absurd hp h₃
      | ended => exact absurd hp h₁
      | failed reason => exact absurd hp (h₂ reason)
    split at h
    · next hi => cases h; exact .interrupted (by simp [taken?, hi]) hs hi
    · next hi =>
      have hi : p.interrupted = false := by simpa using hi
      split at h
      · next hn => cases h; exact .ask (taken?_of_hasNews (decide_eq_true hn)) hs hi (decide_eq_true hn)
      · next hn =>
        have hn : p.hasNews = false := decide_eq_false hn
        split at h
        · next i rest hr hq =>
          cases h
          exact turn_of_input (by simp [taken?, hr, hi, hn, hq]) hq
        · next hr =>
          split at h
          · next hd => cases h; exact .drained (taken?_of_not_reading (by simp [hr])) hr hi hn hd
          · cases h
        · cases h

/-- A turn takes input from the front. -/
theorem Turn.input_eq (h : Turn now p q) : p.input = p.taken?.toList ++ q.input := by
  cases h with
  | leave ht | interrupted ht | drained ht => rw [ht]; rfl
  | ask ht => simp [ht, wait]
  | fail ht _ hq | skip ht _ _ _ hq | update ht _ _ _ hq | drain ht hq => rw [ht, hq]; rfl

/-- With every turn the loop begins to wait anew. -/
theorem Turn.waitingSince_eq (h : Turn now p q) (hq : q.stage.isLooping = true) :
    q.waitingSince = now := by
  cases h with
  | leave | interrupted | drained | fail => cases hq
  | _ => rfl

/-- How the loop comes to its end: it gives up to wait for parameters, and then for the last
preview. -/
theorem Turn.ends (h : Turn now p q) (hq : q.stage = .finishing ∨ q.stage = .ended) :
    p.taken? = none ∧
      (p.stage = .finishing ∧ p.underWay = false ∧ q = { p with stage := .ended } ∨
        q = p.finish ∧ (p.interrupted = true ∨
          p.stage = .draining ∧ p.hasNews = false ∧ p.drained ≤ now)) := by
  have looping (hl : q.stage.isLooping = true) : False := by
    rcases hq with hq | hq <;> rw [hq] at hl <;> cases hl
  cases h with
  | leave ht hs hu => exact ⟨ht, .inl ⟨hs, hu, rfl⟩⟩
  | interrupted ht hs hi => exact ⟨ht, .inr ⟨rfl, .inl hi⟩⟩
  | ask ht hs => exact (looping (by simpa [wait] using hs)).elim
  | fail => rcases hq with hq | hq <;> cases hq
  | skip ht | update ht =>
    refine (looping ?_).elim
    rw [reading_of_taken? ht]
    rfl
  | drain => exact (looping rfl).elim
  | drained ht hs _ hn hd => exact ⟨ht, .inr ⟨rfl, .inr ⟨hs, hn, hd⟩⟩⟩

/-! ## What the loop waits for -/

/-- What the loop waits for. -/
inductive Waits (now : Nat) (p : Preview) : Prop where
  | input (hs : p.stage = .reading) (hq : p.input = [])
  /-- The end of the wait after the input. -/
  | drain (hs : p.stage = .draining) (hd : now < p.drained)
  | answer (hs : p.stage = .finishing) (hu : p.underWay = true)
  /-- The loop is over. -/
  | nothing (hs : p.stage = .ended ∨ ∃ reason, p.stage = .failed reason)

theorem waits_of_turn_eq_none (h : p.turn now = none) : Waits now p := by
  unfold turn at h
  split at h
  · next hs => exact .nothing (.inl hs)
  · next reason hs => exact .nothing (.inr ⟨reason, hs⟩)
  · next hs =>
    split at h
    · next hu => exact .answer hs hu
    · cases h
  · next h₁ h₂ h₃ =>
    split at h
    · cases h
    · split at h
      · cases h
      · split at h
        · cases h
        · next hr =>
          split at h
          · cases h
          · next hd => exact .drain hr (Nat.not_le.1 hd)
        · next hdr hr =>
          cases hp : p.stage with
          | reading =>
            cases hq : p.input with
            | nil => exact .input hp hq
            | cons i rest => exact (hr i rest hp hq).elim
          | draining => exact (hdr hp).elim
          | finishing => exact (h₃ hp).elim
          | ended => exact (h₁ hp).elim
          | failed reason => exact (h₂ reason hp).elim

/-- Without a turn the loop takes no input. -/
theorem taken?_of_turn_eq_none (h : p.turn now = none) : p.taken? = none := by
  cases waits_of_turn_eq_none h with
  | input hs hq => simp [taken?, hq]
  | drain hs | answer hs => exact taken?_of_not_reading (by simp [hs])
  | nothing hs =>
    refine taken?_of_not_reading ?_
    rcases hs with hs | ⟨reason, hs⟩ <;> simp [hs]

/-- A line without parameters is passed over. -/
theorem turn_of_passed_over {i : Input} (h : p.taken? = some i) (hl : i.isLine = true)
    (hi : i.isText = true) (hv : i.parameters? = none) :
    p.turn now = some { p with input := p.input.tail, waitingSince := now } := by
  cases hturn : p.turn now with
  | none => cases (taken?_of_turn_eq_none hturn).symm.trans h
  | some q =>
    have taken {j : Input} (hj : p.taken? = some j) : j = i :=
      Option.some.inj (hj.symm.trans h)
    cases turn_eq_some hturn with
    | leave ht | interrupted ht | ask ht | drained ht => cases ht.symm.trans h
    | fail hj hi' => cases (taken hj ▸ hi').symm.trans hi
    | skip hj hl' hi' hv' hq => rw [hq]; rfl
    | update hj hl' hi' hv' => cases (taken hj ▸ hv').symm.trans hv
    | drain hj => cases (taken hj) ▸ hl

end BackendMonitor.Preview
