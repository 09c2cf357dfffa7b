import BackendMonitor.Proofs.Preview.Turn
import Mathlib.Data.List.Induction

/-!
# Runs of a program that shows previews

A program under a clock, to which input and answers come, and whose loop and pipeline take their
turns in any order. A run is the list of what happens (`Event`), and `Run.after` is what it leads to.
On the way it is noted what became of every preview (`Fate`), from what the loop does to them: it
gives up the one that it asked for last whenever it asks for another one, and knows of no others.

* `Move`: what any event can make of a program; `Run.turn_or_unseen`: what the loop sees of it;
* `Shown`: what was shown are the filters of the previews that were answered in time, and none
  but the last preview can still be answered.
-/

namespace BackendMonitor.Preview

open Json

/-! ## Previews -/

/-- What became of a preview. -/
inductive Fate where
  | live
  /-- It was given up for a newer one. -/
  | superseded
  | answered (result : Except Failure String)
deriving DecidableEq

namespace Fate

/-- Whether a preview can still be answered. -/
def isLive : Fate → Bool
  | .live => true
  | _ => false

/-- Gives up a preview, unless it was answered. -/
def supersede : Fate → Fate
  | .live => .superseded
  | f => f

/-- A preview is answered, unless it was given up or answered before. -/
def answer (result : Except Failure String) : Fate → Fate
  | .live => .answered result
  | f => f

/-- The filter that a preview showed. -/
def filter? : Fate → Option String
  | .answered (.ok filter) => some filter
  | _ => none

end Fate

/-- What became of the previews, newest first. -/
abbrev Fates := List Fate

namespace Fates

/-- Another preview is asked for: the last one is given up. -/
def ask : Fates → Fates
  | [] => [.live]
  | f :: rest => .live :: f.supersede :: rest

/-- The answer to a preview; they are numbered from one. -/
def answer (number : Nat) (result : Except Failure String) : Fates → Fates
  | [] => []
  | f :: rest =>
    if number = rest.length + 1 then f.answer result :: rest else f :: answer number result rest

/-- What became of a preview. -/
def get? (number : Nat) : Fates → Option Fate
  | [] => none
  | f :: rest => if number = rest.length + 1 then some f else get? number rest

end Fates

/-! ## Events -/

/-- What can happen to a program that is not interrupted. -/
inductive Event where
  | arrive (i : Input)
  | answer (number : Nat) (result : Except Failure String)
  /-- The pipeline takes a turn. -/
  | settle
  /-- The loop takes a turn. -/
  | turn
  /-- Time passes, in milliseconds. -/
  | pass (ms : Nat)

namespace Event

/-- What becomes of a program at the instant `now`. -/
def act (now : Nat) (p : Preview) : Event → Preview
  | .arrive i => p.arrive i
  | .answer number result => p.answer number result
  | .settle => (p.settle now).getD p
  | .turn => (p.turn now).getD p
  | .pass _ => p

/-- How long an event takes. -/
def duration : Event → Nat
  | .pass ms => ms
  | _ => 0

/-- The input that arrives. -/
def arrival? : Event → Option Input
  | .arrive i => some i
  | _ => none

/-- The input that is read. -/
def read? (p : Preview) : Event → Option Input
  | .turn => p.taken?
  | _ => none

/-- What becomes of the previews. -/
def fates (now : Nat) (p : Preview) (fs : Fates) : Event → Fates
  | .answer number result => fs.answer number result
  | .turn => if p.asked.length < (act now p .turn).asked.length then fs.ask else fs
  | _ => fs

end Event

/-- An answer is of no concern to the loop and to the pipeline. -/
theorem answer_eq {p : Preview} (number : Nat) (result : Except Failure String) :
    p.answer number result = { p with
      underWay := (p.answer number result).underWay, shown := (p.answer number result).shown } := by
  unfold Preview.answer; split <;> rfl

theorem settle_eq (now : Nat) (p : Preview) :
    (p.settle now).getD p = { p with pipeline := (p.pipeline.turn now).getD p.pipeline } := by
  unfold Preview.settle
  cases p.pipeline.turn now <;> rfl

/-- What can become of a program at the instant `now`. -/
inductive Move (now : Nat) (p : Preview) : Preview → Prop where
  | stay : Move now p p
  | arrive (i : Input) : Move now p (p.arrive i)
  | answer (hu : p.underWay = true) (result : Except Failure String) :
      Move now p { p with underWay := false, shown := result.toOption.toList ++ p.shown }
  | settle {pipeline : Debounce.Pipeline (Option Value)}
      (h : Debounce.Pipeline.Turn now p.pipeline pipeline) :
      Move now p { p with pipeline := pipeline }
  | turn {q : Preview} (h : Turn now p q) : Move now p q

theorem Event.move_act (now : Nat) (p : Preview) (e : Event) : Move now p (e.act now p) := by
  cases e with
  | arrive i => exact .arrive i
  | pass => exact .stay
  | answer number result =>
    simp only [act, Preview.answer]
    split
    · next h => exact .answer (by simp_all) result
    · exact .stay
  | settle =>
    simp only [act, Preview.settle]
    cases ht : p.pipeline.turn now with
    | none => exact .stay
    | some pipeline => exact .settle (Debounce.Pipeline.turn_eq_some ht)
  | turn =>
    simp only [act]
    cases ht : p.turn now with
    | none => exact .stay
    | some q => exact .turn (turn_eq_some ht)

/-- The input that arrives with some events. -/
def arrivals (es : List Event) : List Input :=
  es.filterMap Event.arrival?

/-! ## Runs -/

/-- A program under a clock, with what it read and what became of its previews. -/
structure Run where
  preview : Preview
  now : Nat := 0
  /-- The input that the loop has read, oldest first. -/
  read : List Input := []
  /-- The updates that the pipeline was given, oldest first. -/
  updates : List (Debounce.Update (Option Value)) := []
  fates : Fates := []

namespace Run

/-- A program to which nothing has happened. -/
def start (p : Preview) : Run := { preview := p }

/-- One thing happens. -/
def step (r : Run) (e : Event) : Run where
  preview := e.act r.now r.preview
  now := r.now + e.duration
  read := r.read ++ (e.read? r.preview).toList
  updates := r.updates ++
    (((e.read? r.preview).bind Input.parameters?).map fun v => ⟨some v, r.now⟩).toList
  fates := e.fates r.now r.preview r.fates

/-- What a run leads to. -/
def after (r : Run) (es : List Event) : Run :=
  es.foldl step r

theorem after_nil (r : Run) : r.after [] = r := rfl

theorem after_append (r : Run) (es fs : List Event) :
    r.after (es ++ fs) = (r.after es).after fs :=
  List.foldl_append

theorem after_concat (r : Run) (es : List Event) (e : Event) :
    r.after (es ++ [e]) = (r.after es).step e :=
  after_append r es [e]

/-- What happens between two turns of the loop: it does not see it. -/
structure Unseen (r : Run) (e : Event) : Prop where
  read : (r.step e).read = r.read
  updates : (r.step e).updates = r.updates
  input : (r.step e).preview.input = r.preview.input ++ e.arrival?.toList
  stage : (r.step e).preview.stage = r.preview.stage
  waitingSince : (r.step e).preview.waitingSince = r.preview.waitingSince
  asked : (r.step e).preview.asked = r.preview.asked

theorem turn_or_unseen (r : Run) (e : Event) :
    (e = .turn ∧ Turn r.now r.preview (r.step e).preview) ∨ Unseen r e := by
  have unread (hr : e.read? r.preview = none) :
      (r.step e).read = r.read ∧ (r.step e).updates = r.updates := by
    simp [step, hr]
  cases e with
  | arrive i =>
    obtain ⟨hread, hupdates⟩ := unread rfl
    exact .inr ⟨hread, hupdates, rfl, rfl, rfl, rfl⟩
  | pass ms =>
    obtain ⟨hread, hupdates⟩ := unread rfl
    exact .inr ⟨hread, hupdates, (List.append_nil _).symm, rfl, rfl, rfl⟩
  | answer number result =>
    obtain ⟨hread, hupdates⟩ := unread rfl
    have he : (r.step (.answer number result)).preview = _ := answer_eq number result
    refine .inr ⟨hread, hupdates, ?_, ?_, ?_, ?_⟩ <;> rw [he]
    exact (List.append_nil _).symm
  | settle =>
    obtain ⟨hread, hupdates⟩ := unread rfl
    have he : (r.step .settle).preview = _ := settle_eq r.now r.preview
    refine .inr ⟨hread, hupdates, ?_, ?_, ?_, ?_⟩ <;> rw [he]
    exact (List.append_nil _).symm
  | turn =>
    cases ht : r.preview.turn r.now with
    | some q =>
      have he : (r.step .turn).preview = q := congrArg (Option.getD · r.preview) ht
      exact .inl ⟨rfl, he ▸ turn_eq_some ht⟩
    | none =>
      obtain ⟨hread, hupdates⟩ := unread (taken?_of_turn_eq_none ht)
      have he : (r.step .turn).preview = r.preview := congrArg (Option.getD · r.preview) ht
      refine .inr ⟨hread, hupdates, ?_, ?_, ?_, ?_⟩ <;> rw [he]
      exact (List.append_nil _).symm

/-- What every step keeps, given what happened before, holds after every run. -/
theorem after_induction {r : Run} (motive : List Event → Run → Prop) (hr : motive [] r)
    (hstep : ∀ es e, motive es (r.after es) → motive (es ++ [e]) ((r.after es).step e))
    (es : List Event) : motive es (r.after es) := by
  induction es using List.reverseRecOn with
  | nil => exact hr
  | append_singleton es e ih =>
    rw [after_concat]
    exact hstep es e ih

end Run

/-! ## What is shown -/

variable {now : Nat} {p q : Preview} {fs : Fates}

theorem isLive_supersede (f : Fate) : f.supersede.isLive = false := by
  cases f <;> rfl

theorem filter?_supersede (f : Fate) : f.supersede.filter? = f.filter? := by
  cases f <;> rfl

namespace Fates

theorem filterMap_ask (fs : Fates) : fs.ask.filterMap Fate.filter? = fs.filterMap Fate.filter? := by
  cases fs with
  | nil => rfl
  | cons f rest =>
    rw [ask, List.filterMap_cons_none rfl, List.filterMap_cons, List.filterMap_cons, filter?_supersede]

/-- An answer comes too late for all of some previews. -/
theorem answer_of_not_live (h : ∀ f ∈ fs, f.isLive = false) (number : Nat)
    (result : Except Failure String) : fs.answer number result = fs := by
  induction fs with
  | nil => rfl
  | cons f rest ih =>
    have hf : f.answer result = f := by
      have := h f List.mem_cons_self
      cases f with
      | live => cases this
      | superseded | answered => rfl
    rw [answer, hf, ih fun f' hf' => h f' (List.mem_cons_of_mem _ hf')]
    split <;> rfl

theorem le_length_of_get? {number : Nat} {f : Fate} (h : fs.get? number = some f) :
    number ≤ fs.length := by
  induction fs with
  | nil => cases h
  | cons f' rest ih =>
    rw [get?] at h
    split at h
    · next hn => exact Nat.le_of_eq hn
    · exact Nat.le_succ_of_le (ih h)

theorem get?_ask {number : Nat} (h : fs.get? number = some .superseded) :
    fs.ask.get? number = some .superseded := by
  cases fs with
  | nil => cases h
  | cons f rest =>
    have hle : number ≤ rest.length + 1 := le_length_of_get? h
    rw [get?] at h
    rw [ask, get?, if_neg (by rw [List.length_cons]; omega), get?]
    split at h
    · next hn =>
      cases h
      rw [if_pos hn]
      rfl
    · next hn => rwa [if_neg hn]

theorem length_answer (number : Nat) (result : Except Failure String) (fs : Fates) :
    (fs.answer number result).length = fs.length := by
  induction fs with
  | nil => rfl
  | cons f rest ih =>
    rw [answer]
    split
    · rfl
    · rw [List.length_cons, ih, List.length_cons]

theorem get?_answer {number : Nat} (h : fs.get? number = some .superseded) (number' : Nat)
    (result : Except Failure String) : (fs.answer number' result).get? number = some .superseded := by
  induction fs with
  | nil => cases h
  | cons f rest ih =>
    rw [get?] at h
    rw [answer]
    split
    · rw [get?]
      split at h
      · next hn =>
        cases h
        rw [if_pos hn]
        rfl
      · next hn => rwa [if_neg hn]
    · rw [get?, length_answer]
      split at h
      · next hn => rwa [if_pos hn]
      · next hn => rw [if_neg hn, ih h]

end Fates

/-- A turn of the loop asks for a preview of what has settled, or it does nothing to the previews. -/
theorem Turn.asks_or_not (h : Turn now p q) :
    (∃ v, p.stage.isLooping = true ∧ p.hasNews = true ∧ p.pipeline.settled.value = some v ∧
      q = { p with
        noticed := p.pipeline.settled.count, underWay := true, asked := ⟨v, now⟩ :: p.asked,
        waitingSince := now }) ∨
    (q.asked = p.asked ∧ q.underWay = p.underWay ∧ q.shown = p.shown) := by
  cases h with
  | ask ht hs hi hn =>
    simp only [onSettled]
    split
    · exact .inr ⟨rfl, rfl, rfl⟩
    · next v hv => exact .inl ⟨v, hs, hn, hv, rfl⟩
  | _ => exact .inr ⟨rfl, rfl, rfl⟩

/-- What was shown, and which preview can still be answered: the last one, if it is under way. -/
structure Shown (p : Preview) (fs : Fates) : Prop where
  length : fs.length = p.asked.length
  past : ∀ f ∈ fs.tail, f.isLive = false
  last : ∀ f ∈ fs.head?, f ≠ .superseded
  live : fs.head?.any Fate.isLive = p.underWay
  shown : p.shown = fs.filterMap Fate.filter?

theorem Shown.congr (h : Shown p fs) (ha : q.asked = p.asked) (hu : q.underWay = p.underWay)
    (hs : q.shown = p.shown) : Shown q fs :=
  ⟨by rw [ha, h.length], h.past, h.last, by rw [hu, h.live], by rw [hs, h.shown]⟩

/-- The preview before is given up for a new one. -/
theorem Shown.ask (h : Shown p fs) {a : Asked} (ha : q.asked = a :: p.asked)
    (hu : q.underWay = true) (hs : q.shown = p.shown) : Shown q fs.ask where
  length := by
    rw [ha, List.length_cons, ← h.length]
    cases fs <;> rfl
  past f hf := by
    cases fs with
    | nil => cases hf
    | cons f' rest =>
      rcases List.mem_cons.1 hf with rfl | hf
      · exact isLive_supersede f'
      · exact h.past f hf
  last f hf := by
    cases fs <;> cases hf <;> exact nofun
  live := by
    rw [hu]
    cases fs <;> rfl
  shown := by
    rw [hs, h.shown, Fates.filterMap_ask]

theorem Shown.answer (h : Shown p fs) (number : Nat) (result : Except Failure String) :
    Shown (p.answer number result) (fs.answer number result) := by
  cases fs with
  | nil =>
    have hu : p.underWay = false := h.live.symm
    rwa [Preview.answer, hu, if_neg (by simp)]
  | cons f rest =>
    have hlen : p.asked.length = rest.length + 1 := h.length.symm
    have hpast : ∀ f ∈ rest, f.isLive = false := h.past
    have hlive : f.isLive = p.underWay := h.live
    rw [Fates.answer]
    by_cases hn : number = rest.length + 1
    · rw [if_pos hn]
      cases f with
      | superseded => exact absurd rfl (h.last _ rfl)
      | answered result' => rwa [Preview.answer, ← hlive, if_neg (by simp [Fate.isLive])]
      | live =>
        have hshown : p.shown = rest.filterMap Fate.filter? := h.shown
        rw [Preview.answer, ← hlive, hlen, hn, if_pos (by simp [Fate.isLive])]
        refine ⟨h.length, hpast, fun f hf => ?_, rfl, ?_⟩
        · cases hf
          exact nofun
        · cases result <;> rw [hshown] <;> rfl
    · rw [if_neg hn, Fates.answer_of_not_live hpast]
      rwa [Preview.answer, if_neg (by simp [hlen, hn])]

namespace Run

variable {r : Run}

theorem shown_start (ha : p.asked = []) (hu : p.underWay = false) (hs : p.shown = []) :
    Shown (start p).preview (start p).fates where
  length := (congrArg List.length ha).symm
  past f hf := absurd hf List.not_mem_nil
  last f hf := by cases hf
  live := hu.symm
  shown := hs

theorem shown_step (h : Shown r.preview r.fates) (e : Event) :
    Shown (r.step e).preview (r.step e).fates := by
  cases e with
  | arrive | pass => exact h.congr rfl rfl rfl
  | answer number result => exact h.answer number result
  | settle =>
    show Shown ((r.preview.settle r.now).getD r.preview) r.fates
    rw [settle]
    cases r.preview.pipeline.turn r.now with
    | none => exact h
    | some q => exact h.congr rfl rfl rfl
  | turn =>
    show Shown ((r.preview.turn r.now).getD r.preview)
      (if r.preview.asked.length < ((r.preview.turn r.now).getD r.preview).asked.length then
        r.fates.ask else r.fates)
    cases ht : r.preview.turn r.now with
    | none => rwa [Option.getD_none, if_neg (Nat.lt_irrefl _)]
    | some q =>
      rw [Option.getD_some]
      rcases (turn_eq_some ht).asks_or_not with ⟨v, -, -, -, hq⟩ | ⟨ha, hu, hs⟩
      · have ha : q.asked = ⟨v, r.now⟩ :: r.preview.asked := by rw [hq]
        rw [ha, List.length_cons, if_pos (Nat.lt_succ_self _)]
        exact h.ask ha (by rw [hq]) (by rw [hq])
      · rw [ha, if_neg (Nat.lt_irrefl _)]
        exact h.congr ha hu hs

theorem shown_after (h : Shown r.preview r.fates) (es : List Event) :
    Shown (r.after es).preview (r.after es).fates :=
  List.foldlRecOn es step (motive := fun r => Shown r.preview r.fates) h
    fun _ h e _ => shown_step h e

/-- A preview that was given up stays given up. -/
theorem superseded_step {number : Nat} (h : r.fates.get? number = some .superseded) (e : Event) :
    (r.step e).fates.get? number = some .superseded := by
  cases e with
  | answer number' result => exact Fates.get?_answer h number' result
  | turn =>
    show (if _ then r.fates.ask else r.fates).get? number = _
    split
    · exact Fates.get?_ask h
    · exact h
  | _ => exact h

theorem superseded_after {number : Nat} (h : r.fates.get? number = some .superseded)
    (es : List Event) : (r.after es).fates.get? number = some .superseded :=
  List.foldlRecOn es step (motive := fun r => r.fates.get? number = some .superseded) h
    fun _ h e _ => superseded_step h e

end Run

/-- The answer to a preview that was given up changes nothing. -/
theorem Shown.answer_of_superseded (h : Shown p fs) {number : Nat}
    (hf : fs.get? number = some .superseded) (result : Except Failure String) :
    p.answer number result = p := by
  rw [Preview.answer, if_neg]
  intro hn
  cases fs with
  | nil => cases hf
  | cons f rest =>
    have hlen : p.asked.length = rest.length + 1 := h.length.symm
    have hn : number = rest.length + 1 := by
      rw [← hlen]
      exact (by simpa using hn : _ ∧ _).2
    rw [Fates.get?, if_pos hn] at hf
    exact h.last f rfl (Option.some.inj hf)

/-- At most one preview can be answered. -/
theorem Shown.countP_isLive_le (h : Shown p fs) : fs.countP Fate.isLive ≤ 1 := by
  cases fs with
  | nil => exact Nat.zero_le 1
  | cons f rest =>
    have hrest : rest.countP Fate.isLive = 0 :=
      List.countP_eq_zero.2 fun f hf => Bool.eq_false_iff.1 (h.past f hf)
    rw [List.countP_cons, hrest]
    split <;> decide

/-- A preview that is not waited for any longer was answered, and showed its filter last. -/
theorem Shown.answered (h : Shown p fs) (hu : p.underWay = false) {a : Asked}
    (ha : a ∈ p.asked.head?) :
    ∃ result, fs.head? = some (.answered result) ∧
      ∀ filter, result = .ok filter → p.shown.head? = some filter := by
  cases fs with
  | nil =>
    rw [List.eq_nil_of_length_eq_zero h.length.symm] at ha
    cases ha
  | cons f rest =>
    cases f with
    | live => cases h.live.trans hu
    | superseded => exact absurd rfl (h.last _ rfl)
    | answered result =>
      refine ⟨result, rfl, ?_⟩
      rintro filter rfl
      rw [h.shown]
      rfl

end BackendMonitor.Preview
