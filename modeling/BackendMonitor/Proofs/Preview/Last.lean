import BackendMonitor.Proofs.Preview.Settled

/-!
# The last preview

What a program has shown when it has ended: at the end of the input the loop waits for the window
and for a margin, and starts to wait anew with every turn. If the task of the pipeline is never late
by that margin, the last parameters have settled by then, and the loop leaves only with the answer to
their preview.

* `Course`: how far the input was read;
* `Run.timely`: the task of the pipeline is not late by the margin;
* `Run.PreviewsInOrder`: what can be said about the previews of every run, and `Run.ShowsLast`: what
  a program has shown that has ended; `Run.last_parameters_are_previewed`: so it is.
-/

namespace BackendMonitor.Preview

open Json Debounce

variable {now window : Nat} {p q : Preview} {r : Run} {es : List Event} {read : List Input}

/-! ## Input -/

/-- The parameters in the last line that has any, up to the end of the input. -/
def lastParameters? (input : List Input) : Option Value :=
  ((input.takeWhile Input.isLine).filterMap Input.parameters?).getLast?

/-- How far the input was read. -/
def Course (read : List Input) : Stage → Prop
  | .reading => ∀ i ∈ read, i.isLine = true
  | .draining | .finishing | .ended =>
    ∃ lines, (∀ i ∈ lines, i.isLine = true) ∧ read = lines ++ [.ended]
  | .failed _ => ∃ i ∈ read, i.isText = false

theorem Turn.course (h : Turn now p q) (hi : p.interrupted = false) (hc : Course read p.stage) :
    Course (read ++ p.taken?.toList) q.stage := by
  have next {i : Input} (ht : p.taken? = some i) (hl : i.isLine = true) :
      Course (read ++ p.taken?.toList) p.stage := by
    rw [reading_of_taken? ht] at hc ⊢
    rw [ht]
    exact List.forall_mem_append.2 ⟨hc, List.forall_mem_singleton.2 hl⟩
  cases h with
  | leave ht hs | drained ht hs =>
    rw [ht, Option.toList_none, List.append_nil]
    rw [hs] at hc
    exact hc
  | interrupted _ _ hi' => cases hi.symm.trans hi'
  | ask ht =>
    rw [ht, Option.toList_none, List.append_nil,
      show ((p.onSettled now).wait now).stage = _ from stage_onSettled]
    exact hc
  | fail ht hi' =>
    rw [ht]
    exact ⟨_, List.mem_append_right _ (List.mem_singleton.2 rfl), hi'⟩
  | skip ht hl | update ht hl => exact next ht hl
  | drain ht =>
    rw [reading_of_taken? ht] at hc
    rw [ht]
    exact ⟨read, hc, rfl⟩

/-- The input that was read, and the wait for more. -/
structure Attentive (es : List Event) (r : Run) : Prop where
  arrived : arrivals es = r.read ++ r.preview.input
  course : Course r.read r.preview.stage
  waiting : r.preview.stage.isLooping = true → ∀ u ∈ r.updates, u.acceptedAt ≤ r.preview.waitingSince

theorem attentive_start (p : Preview) (hi : p.input = []) (hs : p.stage = .reading) :
    Attentive [] (Run.start p) where
  arrived := hi.symm
  course := by
    rw [show (Run.start p).preview.stage = .reading from hs]
    exact fun i hi => absurd hi List.not_mem_nil
  waiting _ u hu := absurd hu List.not_mem_nil

theorem arrivals_concat (es : List Event) (e : Event) :
    arrivals (es ++ [e]) = arrivals es ++ e.arrival?.toList := by
  rw [arrivals, List.filterMap_append]
  cases h : e.arrival? <;> simp [arrivals, h]

theorem attentive_step (h : Attentive es r) (hs : Sound window r) (e : Event) :
    Attentive (es ++ [e]) (r.step e) := by
  rcases r.turn_or_unseen e with ⟨rfl, ht⟩ | hu
  · refine ⟨?_, ht.course hs.interrupted h.course, fun hl u hu => ?_⟩
    · rw [arrivals_concat, h.arrived, ht.input_eq, ← List.append_assoc]
      exact List.append_nil _
    · rw [ht.waitingSince_eq hl]
      exact (Run.sound_step hs .turn).kept.accepted_le u hu
  · refine ⟨?_, ?_, ?_⟩
    · rw [arrivals_concat, h.arrived, hu.read, hu.input, List.append_assoc]
    · rw [hu.read, hu.stage]
      exact h.course
    · rw [hu.stage, hu.updates, hu.waitingSince]
      exact h.waiting

/-- A program that has ended has read all the lines. -/
theorem Attentive.lastParameters?_eq (h : Attentive es r) (hs : r.preview.stage = .ended) :
    lastParameters? (arrivals es) = (r.read.filterMap Input.parameters?).getLast? := by
  have hc := h.course
  rw [hs] at hc
  obtain ⟨lines, hl, hread⟩ := hc
  have hlines : (arrivals es).takeWhile Input.isLine = lines := by
    rw [h.arrived, hread, List.append_assoc, List.takeWhile_append_of_pos hl]
    exact List.append_nil _
  rw [lastParameters?, hlines, hread, List.filterMap_append]
  exact congrArg List.getLast? (List.append_nil _).symm

/-! ## The end -/

/-- When the wait after the input is over, there is nothing that has not settled. -/
theorem Sound.heldBack?_of_drained (h : Sound window r)
    (hw : ∀ u ∈ r.updates, u.acceptedAt ≤ r.preview.waitingSince)
    (hd : r.preview.pipeline.disposed = false) (hn : r.preview.drained ≤ r.now)
    (hdue : ∀ since ∈ r.preview.pipeline.dueSince?, r.now < since + drainMargin) :
    r.preview.pipeline.heldBack? = none := by
  refine Option.eq_none_iff_forall_not_mem.2 fun u hu => ?_
  have hlt := h.kept.lt_of_dueSince? hdue hu
  have hle := hw u (List.mem_of_getLast? ((h.kept.latest hd).heldBack u hu))
  unfold drained at hn
  omega

/-- So the last preview that was asked for is that of the last parameters. -/
theorem Sound.previewed_of_settled (h : Sound window r)
    (hd : r.preview.pipeline.disposed = false) (hheld : r.preview.pipeline.heldBack? = none)
    (hn : r.preview.hasNews = false) {v : Value}
    (hv : (r.read.filterMap Input.parameters?).getLast? = some v) :
    ∃ a ∈ r.preview.asked.head?, Pipeline.Same a.parameters v := by
  obtain ⟨u, hu, huv⟩ := h.exists_last hv
  have hsame : Pipeline.Same r.preview.pipeline.settled.value (some v) :=
    huv ▸ (h.kept.latest hd).settled hheld u hu
  have hasked := h.asks.last_of_not_hasNews hn
  have hvalue := h.kept.honest.value
  cases hp : r.preview.pipeline.settled.published with
  | nil =>
    -- without a settled value there would be the first one, which no parameters are equal to
    rw [hp] at hvalue
    rw [← Option.some.inj hvalue] at hsame
    rcases hsame with hsame | hsame <;> cases hsame
  | cons value rest =>
    rw [hp, List.head?_map] at hasked
    rw [hp] at hvalue
    obtain ⟨a, ha, hav⟩ := Option.map_eq_some_iff.1 hasked
    rw [← Option.some.inj hvalue, ← hav] at hsame
    exact ⟨a, ha, hsame.imp Option.some.inj id⟩

/-- At the end the last preview that was asked for is that of the last parameters. -/
def Previewed (r : Run) : Prop :=
  r.preview.stage = .finishing ∨ r.preview.stage = .ended →
    ∀ v, (r.read.filterMap Input.parameters?).getLast? = some v →
      ∃ a ∈ r.preview.asked.head?, Pipeline.Same a.parameters v

theorem previewed_step (h : Previewed r) (hs : Sound window r) (ha : Attentive es r) (e : Event)
    (hdue : r.preview.pipeline.disposed = false →
      ∀ since ∈ r.preview.pipeline.dueSince?, r.now + e.duration < since + drainMargin) :
    Previewed (r.step e) := by
  rcases r.turn_or_unseen e with ⟨rfl, ht⟩ | hu
  · intro hq v hv
    obtain ⟨hr, hend⟩ := ht.ends hq
    have hread : (r.step .turn).read = r.read := by simp [Run.step, Event.read?, hr]
    rw [hread] at hv
    rcases hend with ⟨hstage, -, he⟩ | ⟨he, hi | ⟨hstage, hn, hd⟩⟩
    · rw [he]
      exact h (.inl hstage) v hv
    · cases hs.interrupted.symm.trans hi
    · rw [he]
      have hl : r.preview.stage.isLooping = true := by rw [hstage]; rfl
      have hnot := hs.disposed hl
      have hheld := hs.heldBack?_of_drained (ha.waiting hl) hnot hd (hdue hnot)
      exact hs.previewed_of_settled hnot hheld hn hv
  · unfold Previewed
    rw [hu.read, hu.stage, hu.asked]
    exact h

theorem Move.onTime (h : Move r.now r.preview q) (hs : Sound window r)
    (hp : r.preview.pipeline.disposed = false → r.preview.pipeline.OnTime r.now)
    (hq : q.pipeline.disposed = false) : q.pipeline.OnTime r.now := by
  cases h with
  | stay | arrive | answer => exact hp hq
  | settle ht =>
    have hd := ht.disposed_eq.symm.trans hq
    exact (hp hd).turn hs.kept ht hd
  | turn ht =>
    rcases ht.given with ⟨v, hl, -, he⟩ | ⟨-, he | he⟩
    · rw [he]
      have hd := hs.disposed hl
      exact (hp hd).update hd _
    · rw [he] at hq ⊢
      exact hp hq
    · rw [he, Pipeline.disposed_dispose] at hq
      cases hq

namespace Run

/-- Whether the task of the pipeline is never late by the margin, with anything that it has to do,
until the pipeline is torn down. -/
def timely (r : Run) : List Event → Bool
  | [] => true
  | e :: es =>
    (r.preview.pipeline.disposed ||
      r.preview.pipeline.dueSince?.all (r.now + e.duration < · + drainMargin)) &&
    (r.step e).timely es

/-- Whether time passes only while the task of the pipeline has nothing to do, and up to the instant
at most at which it has. -/
def prompt (r : Run) : List Event → Bool
  | [] => true
  | e :: es =>
    (e.duration = 0 || (r.preview.pipeline.turn r.now).isNone &&
      r.preview.pipeline.due?.all (r.now + e.duration ≤ ·)) &&
    (r.step e).prompt es

theorem attentive_after (hs : Sound window r) (h : Attentive [] r) (es : List Event) :
    Attentive es (r.after es) :=
  after_induction Attentive h (fun es e h => attentive_step h (sound_after hs es) e) es

theorem previewed_after {before : List Event} (hs : Sound window r) (ha : Attentive before r)
    (h : Previewed r) (ht : r.timely es = true) : Previewed (r.after es) := by
  induction es generalizing r before with
  | nil => exact h
  | cons e es ih =>
    obtain ⟨hdue, ht⟩ := Bool.and_eq_true_iff.1 ht
    refine ih (sound_step hs e) (attentive_step ha hs e) (previewed_step h hs ha e fun hd => ?_) ht
    simpa [hd, Option.all_eq_true] using hdue

/-- A task that takes its turns before time passes is never late by the margin, nor by less. -/
theorem timely_of_prompt (hs : Sound window r)
    (h : r.preview.pipeline.disposed = false → r.preview.pipeline.OnTime r.now)
    (hp : r.prompt es = true) : r.timely es = true := by
  induction es generalizing r with
  | nil => rfl
  | cons e es ih =>
    obtain ⟨hnow, hp⟩ := Bool.and_eq_true_iff.1 hp
    have hlater (hd : r.preview.pipeline.disposed = false) :
        r.preview.pipeline.OnTime (r.now + e.duration) := by
      rcases Bool.or_eq_true_iff.1 hnow with hzero | hrest
      · rw [of_decide_eq_true hzero]
        exact h hd
      · obtain ⟨hturn, hdue⟩ := Bool.and_eq_true_iff.1 hrest
        refine .pass hd (hs.running hd) (Option.isNone_iff_eq_none.1 hturn) ?_
        simpa [Option.all_eq_true] using hdue
    refine Bool.and_eq_true_iff.2 ⟨?_, ih (sound_step hs e) (fun hd => ?_) hp⟩
    · cases hd : r.preview.pipeline.disposed with
      | true => rfl
      | false =>
        refine (Option.all_eq_true _ _).2 fun since hsince => decide_eq_true ?_
        have hle : r.now + e.duration ≤ since := hlater hd since hsince
        exact Nat.lt_of_le_of_lt hle (Nat.lt_add_of_pos_right (by decide))
    · cases e with
      | pass ms => exact hlater hd
      | _ => exact (Event.move_act r.now r.preview _).onTime hs h hd

/-- How previews are asked for, answered and shown in a run of a program with this window, where
`input` has arrived. -/
structure PreviewsInOrder (window : Nat) (input : List Input) (r : Run) : Prop where
  fates : r.fates.length = r.preview.asked.length
  /-- At most one preview can still be answered. -/
  oneLive : r.fates.countP Fate.isLive ≤ 1
  /-- What is shown are the filters of the answers that came in time. -/
  shown : r.preview.shown = r.fates.filterMap Fate.filter?
  /-- A preview that was given up for a newer one shows nothing from then on. -/
  superseded : ∀ number, r.fates.get? number = some .superseded → ∀ more,
    (r.after more).fates.get? number = some .superseded ∧
      ∀ result, (r.after more).preview.answer number result = (r.after more).preview
  /-- Previews are asked for of settled values, in their order. -/
  asked : (r.preview.asked.map (some ·.parameters)).Sublist r.preview.pipeline.settled.published
  /-- What settles is what settles in a pipeline that is given the updates, and nothing else. -/
  debounced : ∃ ds,
    (Debounce.Run.start none window).after ds = ⟨r.preview.pipeline, r.now, r.updates⟩
  /-- The updates are the parameters in the lines that were read. -/
  updates : r.updates.map (·.value) = (r.read.filterMap Input.parameters?).map some
  read : r.read <+: input
  /-- Lines without parameters change nothing. -/
  passedOver : ∀ i, r.preview.taken? = some i → i.isLine = true → i.isText = true →
    i.parameters? = none → r.preview.turn r.now =
      some { r.preview with input := r.preview.input.tail, waitingSince := r.now }
  /-- The program fails only because of a line that is not text. -/
  failed : ∀ reason, r.preview.stage = .failed reason → ∃ i ∈ r.read, i.isText = false
  /-- When the loop has nothing to do it waits for input, for the end of its wait, or for an
  answer. -/
  waits : r.preview.turn r.now = none → Waits r.now r.preview

/-- The last preview is that of the last parameters in the input, if there are any. It has its
answer, and if that is a filter, it was shown last. -/
def ShowsLast (input : List Input) (r : Run) : Prop :=
  ∀ v, lastParameters? input = some v →
    ∃ a result, r.preview.asked.head? = some a ∧ Pipeline.Same a.parameters v ∧
      r.fates.head? = some (.answered result) ∧
      ∀ filter, result = .ok filter → r.preview.shown.head? = some filter

theorem previewsInOrder {n : Nat} (hs : Sound n r) (ha : Attentive es r)
    (hshown : Shown r.preview r.fates) : PreviewsInOrder n (arrivals es) r where
  fates := hshown.length
  oneLive := hshown.countP_isLive_le
  shown := hshown.shown
  superseded number hn more := by
    have hn' := superseded_after hn more
    exact ⟨hn', (shown_after hshown more).answer_of_superseded hn'⟩
  asked := hs.asks.asked.trans (List.drop_sublist _ _)
  debounced := hs.debounced
  updates := hs.values
  read := ⟨_, ha.arrived.symm⟩
  passedOver _ := turn_of_passed_over
  failed reason hfailed := by
    have hc := ha.course
    rwa [hfailed] at hc
  waits := waits_of_turn_eq_none

/-- Whatever comes from outside to a program that is not interrupted, at whatever times, and however
late the loop and the pipeline take their turns: previews are shown in order. If the pipeline is
never late by the margin, as when it takes its turns before time passes, then a program that has
ended has shown the last one. -/
theorem last_parameters_are_previewed {window : Int} (hw : 0 ≤ window) :
    ∃ p, Preview.start window = .ok p ∧ ∀ es : List Event,
      let r := (start p).after es
      PreviewsInOrder window.toNat (arrivals es) r ∧
      ((start p).prompt es = true → (start p).timely es = true) ∧
      ((start p).timely es = true → r.preview.stage = .ended → ShowsLast (arrivals es) r) := by
  obtain ⟨n, rfl⟩ := Int.eq_ofNat_of_zero_le hw
  refine ⟨{ pipeline := .start none n }, rfl, fun es => ?_⟩
  intro r
  have hs : Sound n r := sound_after (sound_start n) es
  have ha : Attentive es r := attentive_after (sound_start n) (attentive_start _ rfl rfl) es
  have hshown : Shown r.preview r.fates := shown_after (shown_start rfl rfl rfl) es
  refine ⟨previewsInOrder hs ha hshown, ?_, fun ht hended v hv => ?_⟩
  · exact timely_of_prompt (sound_start n) fun _ since h => by cases h
  · rw [ha.lastParameters?_eq hended] at hv
    obtain ⟨a, hasked, hsame⟩ :=
      previewed_after (sound_start n) (attentive_start _ rfl rfl) (by rintro (h | h) <;> cases h) ht
        (.inr hended) v hv
    obtain ⟨result, hf, hfilter⟩ := hshown.answered (hs.ended hended) hasked
    exact ⟨a, result, hasked, hsame, hf, hfilter⟩

/-- Two objects, with a line between them that is passed over. The first preview is not answered
before the other one is asked for, and the wait after the input begins anew on the way. -/
def overtaken : List Event :=
  [.arrive (.line [0x7B, 0x7D, 0x0A]), .turn, .settle, .pass 300, .settle, .turn,
    .arrive (.line [0x5B, 0x5D, 0x0A]), .arrive (.line [0x7B, 0x22, 0x61, 0x22, 0x3A, 0x31, 0x7D]),
    .arrive .ended, .turn, .turn, .turn, .pass 40, .settle, .pass 300, .settle, .turn,
    .answer 1 (.ok "first"), .pass 350, .turn, .answer 2 (.ok "second"), .turn]

/-- The pipeline may be late by some milliseconds, and the answer to the first preview comes too
late. -/
theorem last_parameters_are_previewed_overtaken :
    (0 : Int) ≤ 300 ∧ ∃ p, Preview.start 300 = .ok p ∧
      let r := (start p).after overtaken
      (start p).timely overtaken = true ∧ (start p).prompt overtaken = false ∧
      r.preview.stage = .ended ∧ r.fates = [.answered (.ok "second"), .superseded] ∧
      r.preview.shown.head? = some "second" ∧
      (∀ result, r.preview.answer 1 result = r.preview) ∧
      ∃ a v, lastParameters? (arrivals overtaken) = some v ∧
        v.compactText = "\x7b\"a\":1\x7d" ∧
        r.preview.asked.head? = some a ∧ Pipeline.Same a.parameters v := by
  have hw : (0 : Int) ≤ 300 := by decide
  obtain ⟨p, hp, h⟩ := last_parameters_are_previewed hw
  cases hp
  obtain ⟨horder, -, hlast⟩ := h overtaken
  have htimely : (start { pipeline := .start none 300 }).timely overtaken = true := by
    decide +kernel
  have hended : ((start { pipeline := .start none 300 }).after overtaken).preview.stage = .ended := by
    decide +kernel
  have hfates : ((start { pipeline := .start none 300 }).after overtaken).fates =
      [.answered (.ok "second"), .superseded] := by
    decide +kernel
  obtain ⟨v, hv, htext⟩ : ∃ v, lastParameters? (arrivals overtaken) = some v ∧
      v.compactText = "\x7b\"a\":1\x7d" :=
    Option.map_eq_some_iff.1 (by decide +kernel)
  obtain ⟨a, result, ha, hsame, hf, hfilter⟩ := hlast htimely hended v hv
  refine ⟨hw, _, rfl, htimely, by decide +kernel, hended, hfates, ?_, ?_, a, v, hv, htext, ha, hsame⟩
  · refine hfilter "second" ?_
    have hhead := (congrArg List.head? hfates).symm.trans hf
    exact (Fate.answered.inj (Option.some.inj hhead)).symm
  · have hget : Fates.get? 1 ((start { pipeline := .start none 300 }).after overtaken).fates =
        some .superseded := by
      rw [hfates]
      rfl
    have hignored := (horder.superseded 1 hget []).2
    rwa [after_nil] at hignored

end Run

end BackendMonitor.Preview
