import BackendMonitor.Proofs.Poller.Outcome

/-!
# What observers of a poller are told

Observers are told of every change of the state, once, and of nothing else. Progress is compared as
numbers are: a zero that comes with the other sign is no news, and the state takes it without anyone
being told.

* `PollerState.Behind`: the state that observers were told of last may be behind the one that there
  is, but only so far;
* `Noticed`: what one thing that happens does to the state and to what observers are told;
* `Exact`: what observers were told of, which every step keeps;
* `Run.notices_are_exact`: all of it, for every run.
-/

namespace BackendMonitor

/-! ## The same progress -/

namespace Progress

open Float.Model

theorem same_iff {p q : Progress} : p.same q = true ↔
    p.value.toModel.unpack.compare q.value.toModel.unpack = some .eq :=
  beq_iff_eq (α := Option Ordering)

/-- Numbers that are equal do not differ at all, or both are zeros. -/
theorem eq_or_zero_of_compare {x y : UnpackedFloat} (h : x.compare y = some .eq) :
    x = y ∨ ∃ s t, x = .zero s ∧ y = .zero t := by
  have finite {m n : Nat} {e f : Int} (h : (compare e f).then (compare m n) = .eq) :
      m = n ∧ e = f := by
    obtain ⟨he, hm⟩ := Ordering.then_eq_eq.1 h
    exact ⟨Std.compare_eq_iff_eq.1 hm, Std.compare_eq_iff_eq.1 he⟩
  match x, y, h with
  | .zero s, .zero t, _ => exact .inr ⟨s, t, rfl, rfl⟩
  | .infinity .positive, .infinity .positive, _ => exact .inl rfl
  | .infinity .negative, .infinity .negative, _ => exact .inl rfl
  | .finite .positive .., .finite .positive .., h =>
    obtain ⟨rfl, rfl⟩ := finite (Option.some.inj h)
    exact .inl rfl
  | .finite .negative .., .finite .negative .., h =>
    obtain ⟨rfl, rfl⟩ := finite (Ordering.swap_eq_eq.1 (Option.some.inj h))
    exact .inl rfl

theorem same_symm {p q : Progress} (h : p.same q = true) : q.same p = true := by
  rw [same_iff] at h ⊢
  rcases eq_or_zero_of_compare h with he | ⟨s, t, hp, hq⟩
  · rwa [he] at h ⊢
  · rw [hp, hq]
    rfl

theorem same_trans {p q r : Progress} (h : p.same q = true) (h' : q.same r = true) :
    p.same r = true := by
  rw [same_iff] at h h' ⊢
  rcases eq_or_zero_of_compare h with he | ⟨s, t, hp, hq⟩
  · rwa [he]
  · rcases eq_or_zero_of_compare h' with he | ⟨_, u, _, hr⟩
    · rwa [← he]
    · rw [hp, hr]
      rfl

end Progress

namespace Job

theorem sameOption_symm {a b : Option Progress} (h : sameOption Progress.same a b = true) :
    sameOption Progress.same b a = true := by
  cases a with
  | none => cases b with
    | none => rfl
    | some q => cases h
  | some p => cases b with
    | none => cases h
    | some q => exact Progress.same_symm h

theorem sameOption_trans {a b c : Option Progress} (h : sameOption Progress.same a b = true)
    (h' : sameOption Progress.same b c = true) : sameOption Progress.same a c = true := by
  cases b with
  | none => cases a with
    | none => exact h'
    | some p => cases h
  | some q => cases a with
    | none => cases h
    | some p => cases c with
      | none => cases h'
      | some r => exact Progress.same_trans h h'

theorem same_iff {a b : Job} : a.same b = true ↔
    a.id = b.id ∧ a.status = b.status ∧ sameOption Progress.same a.progress b.progress = true ∧
      sameOption Json.Value.same a.result b.result = true ∧ a.error = b.error := by
  simp only [same, Bool.and_eq_true, beq_iff_eq, and_assoc]

/-- What a snapshot that leaves a live job the same does to it: at most its progress is another
one. -/
theorem apply_of_same {job : Job} {snapshot : JobSnapshot} (h : job.status.isTerminal = false)
    (hs : (job.apply snapshot).1.same job = true) :
    (job.apply snapshot).1 = { job with progress := snapshot.progress } ∧
      sameOption Progress.same snapshot.progress job.progress = true := by
  obtain ⟨-, hk, hp, -, -⟩ := same_iff.1 hs
  have he : (job.apply snapshot).1 = { job with progress := snapshot.progress } := by
    unfold apply at hk ⊢
    rw [if_neg (by simp [h])] at hk ⊢
    simp only at hk ⊢
    split
    · rfl
    · next hr =>
      -- A status of a higher rank is another one.
      have hk : snapshot.status = job.status := by
        rw [if_neg hr] at hk
        cases hs : snapshot.status <;> rw [hs] at hk <;> exact hk
      rw [hk] at hr
      exact absurd (Nat.le_refl _) hr
  rw [he] at hp
  exact ⟨he, hp⟩

end Job

namespace PollerState

/-- Whether two states are the same: phase, job and error. -/
def same (s t : PollerState) : Bool :=
  s.phase == t.phase && Job.sameOption Job.same s.job t.job && s.error == t.error

theorem same_eq_false_of_phase {s t : PollerState} (h : s.phase ≠ t.phase) : s.same t = false := by
  simp [same, h]

/-- What observers were told of last is `t`, and the state is `s`: the same one, or the progress of
a live job is another one, but as a number the same. -/
inductive Behind (t : PollerState) : PollerState → Prop where
  | same : Behind t t
  | amended {job : Job} {progress : Option Progress} (hl : t.phase.isTerminal = false)
      (hj : t.job = some job)
      (hp : Job.sameOption Progress.same progress job.progress = true) :
      Behind t { t with job := some { job with progress := progress } }

variable {s t : PollerState}

theorem Behind.phase (h : Behind t s) : s.phase = t.phase := by
  cases h <;> rfl

/-- A terminal state is just the one that observers were told of. -/
theorem Behind.eq_of_isTerminal (h : Behind t s) (ht : s.phase.isTerminal = true) : s = t := by
  cases h with
  | same => rfl
  | amended hl => cases hl.symm.trans ht

/-- Another progress that is the same number leaves observers as far behind as they are. -/
theorem Behind.amend (h : Behind t s) {job : Job} {progress : Option Progress}
    (hl : s.phase.isTerminal = false) (hj : s.job = some job)
    (hp : Job.sameOption Progress.same progress job.progress = true) :
    Behind t { s with job := some { job with progress := progress } } := by
  cases h with
  | same => exact .amended hl hj hp
  | @amended first progress' _ hj' hp' =>
    cases hj
    show Behind t { t with job := some { first with progress := progress } }
    exact .amended hl hj' (Job.sameOption_trans hp hp')

/-- What is not the same as the state is not the same as what observers were told of last. -/
theorem Behind.same_eq_false (h : Behind t s) {next : PollerState} (hn : next.same s = false) :
    next.same t = false := by
  cases h with
  | same => exact hn
  | @amended job progress hl hj hp =>
    refine Bool.eq_false_iff.2 fun ht => Bool.eq_false_iff.1 hn ?_
    simp only [PollerState.same, Bool.and_eq_true] at ht ⊢
    obtain ⟨⟨hphase, hjob⟩, herror⟩ := ht
    refine ⟨⟨hphase, ?_⟩, herror⟩
    rw [hj] at hjob
    cases hnext : next.job with
    | none => rw [hnext] at hjob; cases hjob
    | some job' =>
      rw [hnext] at hjob
      obtain ⟨hi, hk, hq, hr, he⟩ := Job.same_iff.1 hjob
      exact Job.same_iff.2 ⟨hi, hk, Job.sameOption_trans hq (Job.sameOption_symm hp), hr, he⟩

end PollerState

namespace Poller

variable {ρ : Type}

/-! ## What can happen -/

/-- What one thing that happens does to a watched state: nothing, or nothing that observers are told
of, or what they are told of, all at once. -/
inductive Noticed (w : Watched PollerState) : Watched PollerState → Prop where
  | none : Noticed w w
  | amended {job : Job} {progress : Option Progress} (hl : w.value.phase.isTerminal = false)
      (hj : w.value.job = some job)
      (hp : Job.sameOption Progress.same progress job.progress = true)
      (hs : PollerState.same { w.value with job := some { job with progress := progress } }
        w.value = true) :
      Noticed w (w.amend { w.value with job := some { job with progress := progress } })
  | published {s : PollerState} (hl : w.value.phase.isTerminal = false)
      (hs : s.same w.value = false) : Noticed w (w.publish s)

/-- A state in another phase is published. -/
theorem Noticed.of_phase {w : Watched PollerState} {s : PollerState}
    (hl : w.value.phase.isTerminal = false) (h : s.phase ≠ w.value.phase) :
    Noticed w (w.publish s) :=
  .published hl (PollerState.same_eq_false_of_phase h)

/-- A snapshot that reports no end is published if it is news. -/
theorem state_onPolled_of_live {p : Poller ρ} {t : Tracking} {epoch : Nat} {job : Job}
    {snapshot : JobSnapshot} (hd : p.disposed = false) (hj : p.state.value.job = some job)
    (hl : job.status.isTerminal = false) (hs : snapshot.status.isTerminal = false)
    (he : t.epochs.applied < epoch) :
    (p.onPolled t epoch (.ok snapshot)).state =
      if (job.apply snapshot).1.same job then p.state.amend (p.state.value.advance job snapshot)
      else p.state.publish (p.state.value.advance job snapshot) := by
  have ha : t.epochs.accept? epoch = some { t.epochs with applied := epoch } := if_neg (by omega)
  have hx : p.state.value.apply snapshot =
      if (job.apply snapshot).1.same job then .unseen (p.state.value.advance job snapshot)
      else .seen (p.state.value.advance job snapshot) := by
    obtain ⟨hu, -⟩ := Job.apply_of_live hl hs
    have e : job.apply snapshot = ((job.apply snapshot).1, .updated) := Prod.ext rfl hu
    unfold PollerState.apply
    rw [hj]
    simp only
    rw [e]
    rfl
  unfold onPolled
  simp only [ha]
  unfold onSnapshot
  simp only
  rw [if_neg (by simp [track, hd])]
  simp only [track, hx]
  by_cases hsame : (job.apply snapshot).1.same job = true
  · simp only [if_pos hsame]
  · simp only [if_neg hsame]
    rw [publish_of_not_disposed (by exact hd)]

/-- The job is as a snapshot leaves it. -/
theorem PollerState.same_advance {job : Job} {snapshot : JobSnapshot} {s : PollerState}
    (hj : s.job = some job) :
    (s.advance job snapshot).same s = (job.apply snapshot).1.same job := by
  simp [PollerState.same, PollerState.advance, hj, Job.sameOption]

/-- A snapshot that reports no end is told of if it brings news. -/
theorem noticed_onPolled_of_live {p : Poller ρ} {t : Tracking} {epoch : Nat} {job : Job}
    {snapshot : JobSnapshot} (hd : p.disposed = false) (hp : p.state.value.phase.isTerminal = false)
    (hj : p.state.value.job = some job) (hl : job.status.isTerminal = false)
    (hs : snapshot.status.isTerminal = false) (he : t.epochs.applied < epoch) :
    Noticed p.state (p.onPolled t epoch (.ok snapshot)).state := by
  rw [state_onPolled_of_live hd hj hl hs he]
  have hsame : (p.state.value.advance job snapshot).same p.state.value =
      (job.apply snapshot).1.same job := PollerState.same_advance hj
  split
  · next h =>
    rw [h] at hsame
    obtain ⟨ha, hq⟩ := Job.apply_of_same hl h
    rw [PollerState.advance, ha] at hsame ⊢
    exact .amended hp hj hq hsame
  · next h =>
    rw [Bool.not_eq_true] at h
    exact .published hp (hsame.trans h)

theorem Turn.noticed {server : Server} {now : Nat} {p p' : Poller ρ} (h : Turn now p p')
    (ha : Aligned server p) : Noticed p.state p'.state := by
  cases h with
  | stop | submit | ignore | cancelled | poll => exact .none
  | refused hd ht | accepted hd ht =>
    obtain ⟨hv, -, -⟩ := ha.submitting ht
    have hp : p.state.value.phase = .submitting := congrArg (·.phase) hv
    exact .of_phase (by rw [hp]; rfl) (by rw [hp]; exact fun h => by cases h)
  | askCancel hd ht hc ho hp =>
    have hp : p.state.value.phase = .polling := hp
    exact .of_phase (by rw [hp]; rfl) (by rw [hp]; exact fun h => by cases h)
  | resume hd ht hc hr hp =>
    have hp : p.state.value.phase = .cancelling := hp
    exact .of_phase (by rw [hp]; rfl) (by rw [hp]; exact fun h => by cases h)
  | @polled t epoch result hd ht hc hr =>
    obtain ⟨hl, -, hi⟩ := ha.tracking ht
    obtain ⟨hn, he, -⟩ := hi.fresh hr
    obtain ⟨job, hj, -, hk⟩ := hl.job
    have hfresh : t.epochs.applied < epoch := by omega
    have live : p.state.value.phase.isTerminal = false := by
      rcases hl.phase with hp | hp <;> rw [hp] <;> rfl
    have ended : ∀ {s : PollerState}, s.phase.isTerminal = true →
        Noticed p.state (p.state.publish s) := by
      intro s hs
      refine .of_phase live fun h => ?_
      rw [h, live] at hs
      cases hs
    have hp : Polled { t with poll := none, epochs := { t.epochs with applied := epoch } } job p
        result (p.onPolled t epoch result) := onPolled_of_fresh hd hj hk hfresh
    cases result with
    | ok snapshot =>
      cases hs : snapshot.status.isTerminal with
      | false => exact noticed_onPolled_of_live hd live hj hk hs hfresh
      | true =>
        generalize p.onPolled _ _ _ = p' at hp ⊢
        cases hp with
        | news hs' => cases hs.symm.trans hs'
        | concluded =>
          refine ended ?_
          show (PollerPhase.ofStatus snapshot.status).isTerminal = true
          cases snapshot.status <;> rfl
    | error f =>
      generalize p.onPolled _ _ _ = p' at hp ⊢
      cases hp with
      | refused | lost => exact ended rfl
      | failed => exact .none

namespace Run

/-- What a step does to the state and to what observers are told. -/
theorem noticed_step {server : Server} {r : Run ρ} (e : Event ρ) (ha : Aligned server r.poller) :
    Noticed r.poller.state (r.step server e).poller.state := by
  have answered : ∀ a, Noticed r.poller.state (r.poller.answer a).state := by
    intro a
    rw [answer_eq]
    exact .none
  cases e with
  | submit request =>
    show Noticed r.poller.state (r.poller.submit request).1.state
    rcases submit_cases request r.poller with h | ⟨-, hp, h⟩
    · rw [h]
      exact .none
    · rw [h]
      have hp : r.poller.state.value.phase = .idle := hp
      exact .of_phase (by rw [hp]; rfl) (by rw [hp]; exact fun h => by cases h)
  | cancel =>
    show Noticed r.poller.state r.poller.cancel.state
    rcases cancel_cases r.poller with h | ⟨-, -, h⟩ <;> rw [h] <;> exact .none
  | dispose | drop | pass => exact .none
  | submissionAnswered => exact answered _
  | pollAnswered => exact answered _
  | cancelAnswered => exact answered _
  | turn =>
    simp only [step]
    cases ht : r.poller.turn r.now with
    | none => exact .none
    | some p => exact (turn_eq_some ht).noticed ha

end Run

/-! ## What every step keeps -/

/-- The states that observers saw, newest first; the first one is that of a new poller. -/
def statesSeen (w : Watched PollerState) : List PollerState :=
  w.seen id {}

theorem statesSeen_eq (w : Watched PollerState) :
    statesSeen w = w.published ++ [({} : PollerState)] := by
  simp [statesSeen, Watched.seen]

/-- What observers were told of: no state that is the same as the one before, none after a terminal
one, and each one whole. -/
structure Exact (server : Server) (w : Watched PollerState) : Prop where
  current : ∃ s, (statesSeen w).head? = some s ∧ s.Behind w.value
  distinct : (statesSeen w).IsChain fun later earlier => later.same earlier = false
  live : ∀ s ∈ (statesSeen w).tail, s.phase.isTerminal = false
  whole : ∀ s ∈ w.published, s.Coherent server.submission

theorem Noticed.exact {server : Server} {w w' : Watched PollerState} (h : Noticed w w')
    (hw : Exact server w) (hc : w'.value.Coherent server.submission) : Exact server w' := by
  obtain ⟨s, hs, hb⟩ := hw.current
  cases h with
  | none => exact hw
  | amended hl hj hp => exact ⟨⟨s, hs, hb.amend hl hj hp⟩, hw.distinct, hw.live, hw.whole⟩
  | @published s' hl hn =>
    obtain ⟨rest, hrest⟩ := List.head?_eq_some_iff.1 hs
    have hseen : statesSeen (w.publish s') = s' :: s :: rest := congrArg (s' :: ·) hrest
    have hd := hw.distinct
    have ht := hw.live
    rw [hrest] at hd ht
    refine ⟨⟨s', rfl, .same⟩, ?_, ?_, ?_⟩
    · rw [hseen]
      exact List.isChain_cons_cons.2 ⟨hb.same_eq_false hn, hd⟩
    · rw [hseen]
      intro x hx
      rcases List.mem_cons.1 hx with rfl | hx
      · rw [← hb.phase]
        exact hl
      · exact ht x hx
    · intro x hx
      rcases List.mem_cons.1 hx with rfl | hx
      · exact hc
      · exact hw.whole x hx

/-- A terminal state that observers were told of is the last one, and the one that there is. -/
theorem Exact.last {server : Server} {w : Watched PollerState} (h : Exact server w)
    {s : PollerState} (hs : s ∈ w.published) (ht : s.phase.isTerminal = true) :
    w.published.head? = some s ∧ w.value = s := by
  obtain ⟨s', hs', hb⟩ := h.current
  obtain ⟨x, rest, hw⟩ := List.exists_cons_of_ne_nil (List.ne_nil_of_mem hs)
  have hseen : statesSeen w = x :: (rest ++ [({} : PollerState)]) := by
    rw [statesSeen_eq, hw, List.cons_append]
  have hlive := h.live
  rw [hseen] at hs' hlive
  rw [hw] at hs ⊢
  obtain rfl : x = s' := Option.some.inj hs'
  rcases List.mem_cons.1 hs with rfl | hs
  · exact ⟨rfl, hb.eq_of_isTerminal (by rw [hb.phase]; exact ht)⟩
  · have hl := hlive s (List.mem_append_left _ hs)
    cases hl.symm.trans ht

namespace Run

theorem exact_after (server : Server) {s : PollSettings} {p : Poller ρ}
    (h : ofSettings s = .ok p) (es : List (Event ρ)) :
    Exact server ((start p).after server es).poller.state := by
  have hr : Aligned server ((start p).after server es).poller ∧
      Exact server ((start p).after server es).poller.state := by
    refine after_induction (fun r => Aligned server r.poller ∧ Exact server r.poller.state) ?_ es
      ⟨(sound_start server h).aligned, ?_⟩
    · intro r e hr
      have ha := (aligned_step r e hr.1).1
      exact ⟨ha, (noticed_step e hr.1).exact hr.2 ha.coherent⟩
    · unfold ofSettings at h
      split at h
      · cases h
        exact ⟨⟨{}, rfl, .same⟩, List.isChain_singleton _, fun s hs => (by cases hs),
          fun s hs => (by cases hs)⟩
      · cases h
  exact hr.2

/-- What observers are told of in a run, and what they are not. -/
structure TellsExactly (server : Server) (r : Run ρ) : Prop where
  /-- No two states that observers see one after the other are the same. -/
  distinct : (statesSeen r.poller.state).IsChain fun later earlier => later.same earlier = false
  /-- One thing that happens either changes nothing that observers could see, and they are told of
  nothing, or it makes a state that is not the same, and they are told of that one, once. -/
  step : ∀ e, let r' := r.step server e
    r'.poller.state.published = r.poller.state.published ∧
        (r'.poller.state.value = r.poller.state.value ∨
          r'.poller.state.value.same r.poller.state.value = true) ∨
      r'.poller.state.published = r'.poller.state.value :: r.poller.state.published ∧
        r'.poller.state.value.same r.poller.state.value = false
  whole : ∀ state ∈ r.poller.state.published, state.Coherent server.submission
  /-- Only the last state that they are told of may be terminal. -/
  live : ∀ state ∈ r.poller.state.published.tail, state.phase.isTerminal = false
  /-- Then it is the state of the poller from then on, and they are told of nothing more. -/
  last : ∀ state ∈ r.poller.state.published, state.phase.isTerminal = true →
    r.poller.state.published.head? = some state ∧ r.poller.state.value = state ∧
      ∀ more, (r.after server more).poller.state = r.poller.state

/-- Whatever the owner, the server and the task of a poller do, and in whatever order, observers are
told of every change that they could see, of nothing else, and of nothing after a terminal state. -/
theorem notices_are_exact (s : PollSettings) (h : 0 < s.intervalMs) (server : Server) :
    ∃ p : Poller ρ, ofSettings s = .ok p ∧
      ∀ es : List (Event ρ), TellsExactly server ((start p).after server es) := by
  obtain ⟨p, hp⟩ := ofSettings_of_pos h
  refine ⟨p, hp, fun es => ?_⟩
  have hs := (sound_start server hp).after es
  have hx := exact_after server hp es
  generalize (start p).after server es = r at *
  refine ⟨hx.distinct, fun e => ?_, hx.whole, fun state hstate => ?_, fun state hstate ht => ?_⟩
  · have hn := noticed_step e hs.aligned
    simp only
    generalize (r.step server e).poller.state = w at hn ⊢
    cases hn with
    | none => exact .inl ⟨rfl, .inl rfl⟩
    | amended hl hj hp hsame => exact .inl ⟨rfl, .inr hsame⟩
    | published hl hsame => exact .inr ⟨rfl, hsame⟩
  · refine hx.live state ?_
    have hne : r.poller.state.published ≠ [] := fun hn => by
      rw [hn] at hstate
      cases hstate
    rw [statesSeen_eq, List.tail_append_of_ne_nil hne]
    exact List.mem_append_left _ hstate
  · obtain ⟨hhead, hvalue⟩ := hx.last hstate ht
    have hphase : r.poller.phase.isTerminal = true := by
      rw [phase, hvalue]
      exact ht
    exact ⟨hhead, hvalue, fun more => hs.state_after hphase more⟩

/-- A server at which a job runs, then runs on as before, and then fails. -/
def failing : Server where
  submission := .ok "job-1"
  status n :=
    if n < 3 then .ok { jobId := "job-1", status := .running }
    else .ok { jobId := "job-1", status := .failed, error := some "disk full" }
  cancel _ := .ok ()

/-- Three polls are answered. -/
def polledThrice : List (Event String) :=
  [.submit "scan", .turn, .submissionAnswered, .turn, .pass 1000, .turn, .pollAnswered, .turn,
    .pass 1000, .turn, .pollAnswered, .turn, .pass 1000, .turn, .pollAnswered, .turn]

/-- The second poll brings no news, and the third one all at once. -/
theorem notices_are_exact_failing :
    (0 : UInt64) < ({} : PollSettings).intervalMs ∧
      ∃ p : Poller String, ofSettings {} = .ok p ∧
        let r := (start p).after failing polledThrice
        r.poller.polls = 3 ∧
        r.poller.state.published.map (·.phase) = [.failed, .polling, .polling, .submitting] ∧
        r.poller.state.value.error = some "disk full" ∧
        (∀ state ∈ r.poller.state.published.tail, state.phase.isTerminal = false) ∧
        (r.after failing [.pass 1000, .turn]).poller.state = r.poller.state := by
  obtain ⟨p, hp, h⟩ := notices_are_exact (ρ := String) {} (by decide) failing
  have ht := h polledThrice
  refine ⟨by decide, p, hp, ?_⟩
  cases hp
  exact ⟨rfl, rfl, rfl, ht.live,
    (ht.last _ (List.mem_cons_self ..) rfl).2.2 [.pass 1000, .turn]⟩

end Run

end Poller

end BackendMonitor
