import BackendMonitor.Proofs.Debounce.Clock
import BackendMonitor.Proofs.Debounce.Latest
import BackendMonitor.Proofs.Preview.Run
import Mathlib.Data.List.DropRight

/-!
# What previews are asked for

The pipeline of a program behaves as any pipeline to which the parameters are given that are read,
and nothing else. The loop asks for previews of what settles there, in that order; it may miss
values that something newer replaces before it looks, but not the last one that it looks at.

* `Asks`: what the previews are for, as every turn keeps it;
* `Run.debounced`: the pipeline of a program, with the updates that it was given;
* `Run.sound_after`: all that is kept along a run.
-/

namespace BackendMonitor.Preview

open Json Debounce

variable {now window : Nat} {p q : Preview}

/-! ## Settled parameters -/

/-- The settled values that the loop has looked at, newest first. -/
def looked (p : Preview) : List (Option Value) :=
  p.pipeline.settled.published.rtake p.noticed

/-- Previews were asked for of settled values only, in their order, and the last one of the last
value that the loop has looked at. -/
structure Asks (p : Preview) : Prop where
  noticed : p.noticed ≤ p.pipeline.settled.count
  asked : (p.asked.map (some ·.parameters)).Sublist p.looked
  last : (p.asked.map (some ·.parameters)).head? = p.looked.head?

theorem lt_of_hasNews (h : p.hasNews = true) :
    p.noticed < p.pipeline.settled.published.length :=
  of_decide_eq_true h

/-- What is added in front of a list does not matter for its end. -/
theorem rtake_of_isSuffix {α : Type} {l l' : List α} (h : l <:+ l') {n : Nat}
    (hn : n ≤ l.length) : l'.rtake n = l.rtake n := by
  obtain ⟨front, rfl⟩ := h
  rw [List.rtake, List.rtake, List.length_append, Nat.add_sub_assoc hn,
    List.drop_length_add_append]

/-- What settles without being looked at changes nothing. -/
theorem Asks.mono (h : Asks p)
    (hs : p.pipeline.settled.published <:+ q.pipeline.settled.published)
    (hn : q.noticed = p.noticed) (ha : q.asked = p.asked) : Asks q := by
  have hl : q.looked = p.looked := by
    rw [looked, hn]
    exact rtake_of_isSuffix hs h.noticed
  refine ⟨?_, ?_, ?_⟩
  · rw [hn]
    exact Nat.le_trans h.noticed hs.length_le
  · rw [ha, hl]
    exact h.asked
  · rw [ha, hl]
    exact h.last

/-- A loop that has looked at everything asked last for what settled last. -/
theorem Asks.last_of_not_hasNews (h : Asks p) (hn : p.hasNews = false) :
    (p.asked.map (some ·.parameters)).head? = p.pipeline.settled.published.head? := by
  have hle : p.pipeline.settled.published.length ≤ p.noticed :=
    Nat.not_lt.1 (of_decide_eq_false hn)
  rw [h.last, looked, List.rtake, Nat.sub_eq_zero_of_le hle, List.drop_zero]

/-- A preview of the value that has settled last. -/
theorem Asks.ask (h : Asks p) {rest : List (Option Value)} {a : Asked}
    (hs : p.pipeline.settled.published = some a.parameters :: rest)
    (hnews : p.hasNews = true) (hp : q.pipeline = p.pipeline)
    (hn : q.noticed = p.pipeline.settled.count) (ha : q.asked = a :: p.asked) : Asks q := by
  have hnoticed : p.noticed ≤ rest.length := by
    have hlt := lt_of_hasNews hnews
    rw [hs, List.length_cons] at hlt
    omega
  have hp' : p.looked = rest.rtake p.noticed := by
    rw [looked, hs]
    exact rtake_of_isSuffix (List.suffix_cons _ _) hnoticed
  have hq : q.looked = some a.parameters :: rest := by
    rw [looked, hp, hn, Watched.count, List.rtake, Nat.sub_self, List.drop_zero, hs]
  refine ⟨?_, ?_, ?_⟩
  · rw [hp, hn]
  · rw [ha, hq, List.map_cons]
    refine List.Sublist.cons_cons _ (List.Sublist.trans h.asked ?_)
    rw [hp']
    exact List.drop_sublist _ _
  · rw [ha, hq]
    rfl

/-- Every turn of the loop keeps it, as the pipeline settles parameters only. -/
theorem Asks.turn (h : Asks p) (ht : Turn now p q) {accepted : List (Update (Option Value))}
    (honest : Pipeline.Honest none accepted p.pipeline.settled)
    (hsome : ∀ u ∈ accepted, u.value.isSome = true) : Asks q := by
  cases ht with
  | leave | fail | skip | drain => exact h.mono (List.suffix_refl _) rfl rfl
  | update => exact h.mono (by simp) rfl rfl
  | interrupted | drained => exact h.mono (by simp [finish]) rfl rfl
  | ask ht hs hi hn =>
    cases hp : p.pipeline.settled.published with
    | nil =>
      have hlt := lt_of_hasNews hn
      rw [hp] at hlt
      exact absurd hlt (Nat.not_lt_zero _)
    | cons value rest =>
      obtain ⟨u, hu, rfl⟩ := honest.published value (by rw [hp]; exact List.mem_cons_self)
      obtain ⟨v, hv⟩ := Option.isSome_iff_exists.1 (hsome u hu)
      have hvalue : p.pipeline.settled.value = some v := by
        have := honest.value
        rw [hp, hv] at this
        exact (Option.some.inj this).symm
      have hq : (p.onSettled now).wait now = { p with
          noticed := p.pipeline.settled.count, underWay := true, asked := ⟨v, now⟩ :: p.asked,
          waitingSince := now } := by
        simp only [onSettled, hvalue, wait]
      rw [hv] at hp
      rw [hq]
      exact h.ask (a := ⟨v, now⟩) hp hn rfl rfl rfl

/-! ## The pipeline -/

theorem Input.parameters?_of_not_isText {i : Input} (h : i.isText = false) :
    i.parameters? = none := by
  cases i with
  | ended => rfl
  | line bytes =>
    have : Text.Utf8.text? (withoutEnd bytes) = none := by simpa [Input.isText] using h
    rw [Input.parameters?, this]
    rfl

/-- A turn of the loop gives parameters to the pipeline when it reads them. Otherwise all that it
can do to the pipeline is to end it. -/
theorem Turn.given (h : Turn now p q) :
    (∃ v, p.stage.isLooping = true ∧ p.taken?.bind Input.parameters? = some v ∧
      q.pipeline = p.pipeline.update now (some v)) ∨
    (p.taken?.bind Input.parameters? = none ∧
      (q.pipeline = p.pipeline ∨ q.pipeline = p.pipeline.dispose)) := by
  cases h with
  | leave ht => exact .inr ⟨by rw [ht]; rfl, .inl rfl⟩
  | interrupted ht | drained ht => exact .inr ⟨by rw [ht]; rfl, .inr rfl⟩
  | ask ht => exact .inr ⟨by rw [ht]; rfl, .inl pipeline_onSettled⟩
  | fail ht hi => exact .inr ⟨by rw [ht]; exact Input.parameters?_of_not_isText hi, .inl rfl⟩
  | skip ht _ _ hv => exact .inr ⟨by rw [ht]; exact hv, .inl rfl⟩
  | @update i rest v ht _ _ hv =>
    exact .inl ⟨v, by rw [reading_of_taken? ht]; rfl, by rw [ht]; exact hv, rfl⟩
  | drain ht => exact .inr ⟨by rw [ht]; rfl, .inl rfl⟩

/-- The loop goes on only with a pipeline that was not torn down. -/
theorem Turn.not_disposed (h : Turn now p q)
    (hp : p.stage.isLooping = true → p.pipeline.disposed = false)
    (hq : q.stage.isLooping = true) : q.pipeline.disposed = false := by
  have reading {i : Input} (ht : p.taken? = some i) : p.pipeline.disposed = false := by
    refine hp ?_
    rw [reading_of_taken? ht]
    rfl
  cases h with
  | leave | interrupted | drained | fail => cases hq
  | ask ht hs =>
    rw [show ((p.onSettled now).wait now).pipeline = _ from pipeline_onSettled]
    exact hp hs
  | skip ht | drain ht => exact reading ht
  | update ht =>
    have hd := reading ht
    rw [show ∀ v, p.pipeline.update now (some v) = _ from
      fun v => Pipeline.update_of_not_disposed hd (some v)]
    simpa using hd

/-! ## Runs -/

/-- The pipeline of a program, with the updates that it was given. -/
def Run.debounced (r : Run) : Debounce.Run (Option Value) :=
  ⟨r.preview.pipeline, r.now, r.updates⟩

/-- What every step keeps. -/
structure Sound (window : Nat) (r : Run) : Prop where
  interrupted : r.preview.interrupted = false
  disposed : r.preview.stage.isLooping = true → r.preview.pipeline.disposed = false
  ended : r.preview.stage = .ended → r.preview.underWay = false
  debounced : ∃ ds, (Debounce.Run.start none window).after ds = r.debounced
  values : r.updates.map (·.value) = (r.read.filterMap Input.parameters?).map some
  asks : Asks r.preview

variable {r : Run}

theorem Sound.kept (h : Sound window r) :
    Pipeline.Kept none r.now r.updates r.preview.pipeline := by
  obtain ⟨ds, hds⟩ := h.debounced
  have := Debounce.Run.kept_after none window ds
  rwa [hds] at this

theorem Sound.running (h : Sound window r) (hd : r.preview.pipeline.disposed = false) :
    r.preview.pipeline.running = true := by
  obtain ⟨ds, hds⟩ := h.debounced
  have := Debounce.Run.running_after none window ds
  rw [hds] at this
  exact this hd

theorem Sound.isSome_value (h : Sound window r) {u : Update (Option Value)} (hu : u ∈ r.updates) :
    u.value.isSome = true := by
  have hv : u.value ∈ r.updates.map (·.value) := List.mem_map_of_mem hu
  rw [h.values] at hv
  obtain ⟨v, -, hv⟩ := List.mem_map.1 hv
  rw [← hv]
  rfl

/-- The last parameters that were read are the last update. -/
theorem Sound.exists_last (h : Sound window r) {v : Value}
    (hv : (r.read.filterMap Input.parameters?).getLast? = some v) :
    ∃ u, r.updates.getLast? = some u ∧ u.value = some v := by
  have hlast : (r.updates.map (·.value)).getLast? = some (some v) := by
    rw [h.values, List.getLast?_map, hv]
    rfl
  rw [List.getLast?_map] at hlast
  exact Option.map_eq_some_iff.1 hlast

namespace Run

theorem debounced_step_of_not_given {e : Event} {pipeline : Pipeline (Option Value)}
    (h : (e.read? r.preview).bind Input.parameters? = none)
    (hp : (e.act r.now r.preview).pipeline = pipeline) :
    (r.step e).debounced = ⟨pipeline, r.now + e.duration, r.updates⟩ := by
  simp [debounced, step, h, hp]

/-- What happens to the pipeline of a program is what can happen to any pipeline. -/
theorem debounced_step (hp : r.preview.stage.isLooping = true → r.preview.pipeline.disposed = false)
    (e : Event) : ∃ ds, (r.step e).debounced = r.debounced.after ds := by
  cases e with
  | arrive i => exact ⟨[], debounced_step_of_not_given rfl rfl⟩
  | answer number result =>
    have hp' := congrArg pipeline (answer_eq (p := r.preview) number result)
    exact ⟨[], debounced_step_of_not_given (e := .answer number result) rfl hp'⟩
  | settle =>
    have hp' := congrArg pipeline (settle_eq r.now r.preview)
    refine ⟨[.turn], (debounced_step_of_not_given (e := .settle) rfl hp').trans ?_⟩
    exact congrArg (Debounce.Run.mk _ _) (List.append_nil _).symm
  | pass ms => exact ⟨[.pass ms], rfl⟩
  | turn =>
    have hact : Event.act r.now r.preview .turn = (r.preview.turn r.now).getD r.preview := rfl
    cases ht : r.preview.turn r.now with
    | none =>
      rw [ht, Option.getD_none] at hact
      refine ⟨[], debounced_step_of_not_given ?_ (congrArg pipeline hact)⟩
      rw [show Event.read? r.preview .turn = _ from taken?_of_turn_eq_none ht]
      rfl
    | some q =>
      rw [ht, Option.getD_some] at hact
      rcases (turn_eq_some ht).given with ⟨v, hi, hv, hq⟩ | ⟨hv, hq | hq⟩
      · refine ⟨[.update (some v)], ?_⟩
        have hd := hp hi
        simp [debounced, step, Debounce.Run.after, Debounce.Run.step, Debounce.Event.act,
          Debounce.Event.accepted?, Debounce.Event.duration, Event.duration, Event.read?, hact, hd,
          hv, hq]
      · exact ⟨[], debounced_step_of_not_given hv ((congrArg pipeline hact).trans hq)⟩
      · refine ⟨[.dispose], ?_⟩
        have hq' := (congrArg pipeline hact).trans hq
        refine (debounced_step_of_not_given (e := .turn) hv hq').trans ?_
        exact congrArg (Debounce.Run.mk _ _) (List.append_nil _).symm

theorem values_step (h : r.updates.map (·.value) = (r.read.filterMap Input.parameters?).map some)
    (e : Event) : (r.step e).updates.map (·.value) =
      ((r.step e).read.filterMap Input.parameters?).map some := by
  simp only [step, List.map_append, List.filterMap_append, h]
  congr 1
  cases e.read? r.preview with
  | none => rfl
  | some i =>
    cases hi : i.parameters? <;> simp [hi]

end Run

theorem Move.asks (h : Move now p q) (ha : Asks p) {accepted : List (Update (Option Value))}
    (honest : Pipeline.Honest none accepted p.pipeline.settled)
    (hsome : ∀ u ∈ accepted, u.value.isSome = true) : Asks q := by
  cases h with
  | stay => exact ha
  | arrive | answer => exact ha.mono (List.suffix_refl _) rfl rfl
  | turn ht => exact ha.turn ht honest hsome
  | @settle pipeline ht =>
    refine ha.mono ?_ rfl rfl
    show p.pipeline.settled.published <:+ pipeline.settled.published
    rcases ht.settles_or_stays with ⟨value, -, -, hs⟩ | ⟨-, hs, -⟩
    · rw [hs]
      split
      · exact List.suffix_refl _
      · exact List.suffix_cons _ _
    · exact hs ▸ List.suffix_refl _

theorem Move.not_disposed (h : Move now p q)
    (hp : p.stage.isLooping = true → p.pipeline.disposed = false)
    (hq : q.stage.isLooping = true) : q.pipeline.disposed = false := by
  cases h with
  | stay | arrive | answer => exact hp hq
  | settle ht => exact ht.disposed_eq.trans (hp hq)
  | turn ht => exact ht.not_disposed hp hq

/-- The loop leaves only when the last preview is answered. -/
theorem Move.not_underWay (h : Move now p q) (hp : p.stage = .ended → p.underWay = false)
    (hq : q.stage = .ended) : q.underWay = false := by
  cases h with
  | stay | arrive | settle => exact hp hq
  | answer => rfl
  | turn ht =>
    obtain ⟨-, ⟨-, hu, rfl⟩ | ⟨rfl, -⟩⟩ := ht.ends (.inr hq)
    · exact hu
    · cases hq

theorem Move.interrupted_eq (h : Move now p q) : q.interrupted = p.interrupted := by
  cases h with
  | stay | arrive | answer | settle => rfl
  | turn ht =>
    cases ht with
    | ask => exact interrupted_onSettled
    | _ => rfl

theorem Run.sound_step (h : Sound window r) (e : Event) : Sound window (r.step e) := by
  have hmove := e.move_act r.now r.preview
  refine ⟨?_, hmove.not_disposed h.disposed, hmove.not_underWay h.ended, ?_,
    Run.values_step h.values e, ?_⟩
  · exact hmove.interrupted_eq.trans h.interrupted
  · obtain ⟨ds, hds⟩ := h.debounced
    obtain ⟨ds', hds'⟩ := Run.debounced_step h.disposed e
    exact ⟨ds ++ ds', by rw [Debounce.Run.after_append, hds, hds']⟩
  · exact hmove.asks h.asks h.kept.honest fun u hu => h.isSome_value hu

theorem Run.sound_start (window : Nat) :
    Sound window (start { pipeline := .start none window }) where
  interrupted := rfl
  disposed _ := rfl
  ended _ := rfl
  debounced := ⟨[], rfl⟩
  values := rfl
  asks := ⟨Nat.le_refl _, List.nil_sublist _, rfl⟩

theorem Run.sound_after (h : Sound window r) (es : List Event) : Sound window (r.after es) :=
  List.foldlRecOn es step h fun _ h e _ => sound_step h e

end BackendMonitor.Preview
