import BackendMonitor.Proofs.Debounce.Turn
import Mathlib.Data.List.Destutter
import Mathlib.Data.List.Induction
import Mathlib.Data.List.SplitBy
import Mathlib.Data.List.TakeWhile

/-!
# Bursts of updates

Updates that follow one another within the window make up a burst, and only the last one of a burst
settles, when its window is over:

* `bursts`, `lastsBy`: the bursts, and the last updates of those that have settled by an instant;
* `Tells`: what observers are told of values that settle one after the other;
* `Rehearsal.settles_bursts`: a pipeline whose task is never late settles the last update of every
  burst, and tells observers of changes only.
-/

namespace BackendMonitor.Debounce

/-! ## Bursts -/

/-- An item that belongs to the last group joins it. -/
theorem splitBy_concat {β : Type} {r : β → β → Bool} {l : List β} {u v : β}
    (hu : l.getLast? = some u) (h : r u v = true) :
    ∃ gs g, g.getLast? = some u ∧ l.splitBy r = gs ++ [g] ∧
      (l ++ [v]).splitBy r = gs ++ [g ++ [v]] := by
  obtain ⟨l, rfl⟩ : ∃ l', l = l' ++ [u] := List.getLast?_eq_some_iff.1 hu
  have hl : l ++ [u] ≠ [] := List.concat_ne_nil _ _
  obtain ⟨gs, g, hg⟩ := (List.eq_nil_or_concat' ((l ++ [u]).splitBy r)).resolve_left
    (List.splitBy_ne_nil.2 hl)
  obtain ⟨hm, hn, hc, hb⟩ := List.splitBy_eq_iff.1 hg
  have hgn : g ≠ [] := fun hg' => hn (by simp [hg'])
  have hlast : g.getLast? = some u := by
    have h := List.getLast_getLast_splitBy r hl
    simp only [hg, List.getLast_concat] at h
    rw [List.getLast?_eq_some_getLast hgn, h]
  refine ⟨gs, g, hlast, hg, List.splitBy_eq_iff.2 ⟨?_, ?_, ?_, ?_⟩⟩
  · rw [hm]
    simp
  · simp only [List.mem_append, List.mem_singleton, not_or] at hn ⊢
    exact ⟨hn.1, (List.append_ne_nil_of_left_ne_nil hgn _).symm⟩
  · intro m hm'
    rcases List.mem_append.1 hm' with hm' | hm'
    · exact hc m (List.mem_append_left _ hm')
    · rw [List.mem_singleton.1 hm']
      refine List.isChain_append.2 ⟨hc g (by simp), List.isChain_singleton _, ?_⟩
      intro x hx y hy
      rw [hlast] at hx
      cases hx
      cases hy
      exact h
  · rw [List.isChain_append] at hb ⊢
    refine ⟨hb.1, List.isChain_singleton _, fun x hx y hy => ?_⟩
    cases hy
    obtain ⟨ha, hb', hr⟩ := hb.2.2 x hx g rfl
    exact ⟨ha, List.append_ne_nil_of_left_ne_nil hgn _, by rwa [List.head_append_of_ne_nil]⟩

variable {α : Type} {window now : Nat} {us : List (Update α)} {u v : Update α}

/-- Cuts updates where one does not follow within the window. -/
def bursts (window : Nat) (us : List (Update α)) : List (List (Update α)) :=
  us.splitBy fun u v => v.acceptedAt < u.acceptedAt + window

/-- The last updates of the bursts. -/
def lasts (window : Nat) (us : List (Update α)) : List (Update α) :=
  (bursts window us).filterMap (·.getLast?)

/-- The last updates of the bursts whose windows are over at the instant `now`. -/
def lastsBy (window now : Nat) (us : List (Update α)) : List (Update α) :=
  (lasts window us).filter (·.acceptedAt + window ≤ now)

/-- Whether updates are in the order of their instants. -/
abbrev Ordered (us : List (Update α)) : Prop :=
  us.Pairwise (·.acceptedAt ≤ ·.acceptedAt)

/-- From the first update that is made later than `now` on, all are. -/
theorem Ordered.lt_of_mem_dropWhile (ho : Ordered us) :
    ∀ u ∈ us.dropWhile (·.acceptedAt ≤ now), now < u.acceptedAt := by
  induction us with
  | nil => exact fun u hu => absurd hu List.not_mem_nil
  | cons v us ih =>
    obtain ⟨hv, ho⟩ := List.pairwise_cons.1 ho
    rw [List.dropWhile_cons]
    split
    · exact ih ho
    · next h =>
      have h : now < v.acceptedAt := by simpa using h
      rintro u (_ | ⟨_, hu⟩)
      · exact h
      · exact Nat.lt_of_lt_of_le h (hv u hu)

/-- An update after a gap begins a burst. -/
theorem lasts_concat_of_gap (h : ∀ u ∈ us.getLast?, u.acceptedAt + window ≤ v.acceptedAt) :
    lasts window (us ++ [v]) = lasts window us ++ [v] := by
  have hr : ∀ u ∈ us.getLast?, decide (v.acceptedAt < u.acceptedAt + window) = false :=
    fun u hu => decide_eq_false (Nat.not_lt.2 (h u hu))
  unfold lasts bursts
  rw [List.splitBy_append_cons [] hr, List.filterMap_append]
  rfl

/-- An update within the window takes the place of the one before. -/
theorem lasts_concat_of_near (hu : us.getLast? = some u)
    (h : v.acceptedAt < u.acceptedAt + window) :
    ∃ closed, lasts window us = closed ++ [u] ∧ lasts window (us ++ [v]) = closed ++ [v] := by
  obtain ⟨gs, g, hlast, hg, hgv⟩ := splitBy_concat (v := v)
    (r := fun u v => decide (v.acceptedAt < u.acceptedAt + window)) hu (decide_eq_true h)
  refine ⟨gs.filterMap (·.getLast?), ?_, ?_⟩
  · unfold lasts bursts
    rw [hg, List.filterMap_append]
    simp [hlast]
  · unfold lasts bursts
    rw [hgv, List.filterMap_append]
    simp

/-- The last update ends the last burst. All other windows are over when it comes. -/
theorem exists_lasts (window : Nat) (ho : Ordered (us ++ [u])) :
    ∃ closed, lasts window (us ++ [u]) = closed ++ [u] ∧
      ∀ c ∈ closed, c.acceptedAt + window ≤ u.acceptedAt := by
  induction us using List.reverseRecOn generalizing u with
  | nil => exact ⟨[], rfl, fun c hc => absurd hc List.not_mem_nil⟩
  | append_singleton us t ih =>
    obtain ⟨ho', -, hle⟩ := List.pairwise_append.1 ho
    have hle : t.acceptedAt ≤ u.acceptedAt := hle t (by simp) u (by simp)
    obtain ⟨closed, hc, hall⟩ := ih ho'
    by_cases hg : t.acceptedAt + window ≤ u.acceptedAt
    · refine ⟨closed ++ [t], ?_, fun c hc' => ?_⟩
      · rw [lasts_concat_of_gap (by simpa using hg), hc]
      · rcases List.mem_append.1 hc' with hc' | hc'
        · have := hall c hc'
          omega
        · rwa [List.mem_singleton.1 hc']
    · obtain ⟨closed', hc', hcu⟩ := lasts_concat_of_near (v := u) (List.getLast?_concat ..)
        (Nat.not_le.1 hg)
      obtain rfl := List.append_cancel_right (hc'.symm.trans hc)
      refine ⟨closed', hcu, fun c hm => ?_⟩
      have := hall c hm
      omega

/-- An update settles by itself, if it does not take the place of one that settled before. -/
theorem lastsBy_concat
    (h : ∀ u ∈ us.getLast?, v.acceptedAt < u.acceptedAt + window → now < u.acceptedAt + window) :
    lastsBy window now (us ++ [v]) =
      lastsBy window now us ++ if v.acceptedAt + window ≤ now then [v] else [] := by
  have hv : [v].filter (·.acceptedAt + window ≤ now) =
      if v.acceptedAt + window ≤ now then [v] else [] := by
    simp [List.filter_cons]
  unfold lastsBy
  by_cases hg : ∀ u ∈ us.getLast?, u.acceptedAt + window ≤ v.acceptedAt
  · rw [lasts_concat_of_gap hg, List.filter_append, hv]
  · simp only [not_forall, Nat.not_le] at hg
    obtain ⟨u, hu, hn⟩ := hg
    obtain ⟨closed, hc, hcv⟩ := lasts_concat_of_near hu hn
    have hu' : [u].filter (·.acceptedAt + window ≤ now) = [] := by
      simpa using h u hu hn
    rw [hc, hcv, List.filter_append, List.filter_append, hu', List.append_nil, hv]

/-- As time passes, only the last update can settle. -/
theorem lastsBy_of_le (window : Nat) (ho : Ordered us) {later : Nat}
    (hn : ∀ u ∈ us.getLast?, u.acceptedAt ≤ now) (hl : now ≤ later) :
    lastsBy window later us = lastsBy window now us ++
      ((us.getLast?.filter (now < ·.acceptedAt + window)).filter
        (·.acceptedAt + window ≤ later)).toList := by
  rcases List.eq_nil_or_concat' us with rfl | ⟨us, u, rfl⟩
  · rfl
  · obtain ⟨closed, hc, hall⟩ := exists_lasts window ho
    have hn : u.acceptedAt ≤ now := hn u (by simp)
    have hclosed : ∀ t, now ≤ t →
        closed.filter (fun c => decide (c.acceptedAt + window ≤ t)) = closed := fun t ht =>
      List.filter_eq_self.2 fun c hm => decide_eq_true (by have := hall c hm; omega)
    unfold lastsBy
    rw [hc, List.filter_append, List.filter_append, hclosed now (Nat.le_refl _), hclosed later hl,
      List.append_assoc, List.getLast?_concat]
    congr 1
    by_cases h₁ : u.acceptedAt + window ≤ now
    · simp [Option.filter, h₁, Nat.le_trans h₁ hl, Nat.not_lt.2 h₁]
    · by_cases h₂ : u.acceptedAt + window ≤ later <;> simp [Option.filter, h₁, h₂, Nat.not_le.1 h₁]

/-- Updates that are made later than `now` change nothing by then. -/
theorem lastsBy_append {vs : List (Update α)} (hv : ∀ v ∈ vs, now < v.acceptedAt) :
    lastsBy window now (us ++ vs) = lastsBy window now us := by
  induction vs using List.reverseRecOn with
  | nil => rw [List.append_nil]
  | append_singleton vs v ih =>
    have hn : now < v.acceptedAt := hv v (by simp)
    rw [← List.append_assoc, lastsBy_concat fun u _ h => by omega, if_neg (by omega),
      List.append_nil, ih fun v h => hv v (List.mem_append_left _ h)]

/-! ## Observers -/

theorem destutter'_concat {R : α → α → Prop} [DecidableRel R] {l : List α} {a b c : α}
    (hc : (l.destutter' R a).getLast? = some c) :
    (l ++ [b]).destutter' R a = l.destutter' R a ++ if R c b then [b] else [] := by
  induction l generalizing a with
  | nil =>
    cases hc
    rw [List.nil_append, List.destutter'_singleton, List.destutter'_nil]
    show (if R a b then [a, b] else [a]) = [a] ++ if R a b then [b] else []
    split <;> rfl
  | cons x l ih =>
    rw [List.cons_append, List.destutter'_cons, List.destutter'_cons] at *
    split
    · next hx =>
      rw [if_pos hx, List.getLast?_cons_of_ne_nil (List.destutter'_ne_nil _ _)] at hc
      rw [ih hc]
      rfl
    · next hx =>
      rw [if_neg hx] at hc
      exact ih hc

section Tells

variable [BEq α]

open Pipeline (Same)

/-- After an initial value, observers were told of each of the values but those that were equal to
what there was. -/
structure Tells (initial : α) (values : List α) (w : Watched α) : Prop where
  told : initial :: w.published.reverse =
    values.destutter' (fun settled value => (settled == value) = false) initial
  value : (w.published ++ [initial]).head? = some w.value
  same : ∀ v ∈ (initial :: values).getLast?, Same w.value v

variable {initial : α} {values : List α} {w : Watched α}

theorem Tells.start (initial : α) : Tells initial [] ⟨initial, []⟩ :=
  ⟨rfl, rfl, fun v hv => by cases hv; exact .inl rfl⟩

/-- One more value settles. -/
theorem Tells.settle (h : Tells initial values w) (v : α) :
    Tells initial (values ++ [v]) (if w.value == v then w else w.publish v) := by
  have hlast : (values.destutter' (fun s v => (s == v) = false) initial).getLast? =
      some w.value := by
    rw [← h.told, ← h.value, ← List.head?_reverse, List.reverse_cons, List.reverse_reverse]
  have hv : (initial :: (values ++ [v])).getLast? = some v := by
    rw [← List.cons_append, List.getLast?_concat]
  by_cases he : (w.value == v) = true
  · rw [if_pos he]
    refine ⟨?_, h.value, fun v' hv' => ?_⟩
    · rw [destutter'_concat hlast, h.told, if_neg (by rw [he]; decide), List.append_nil]
    · cases hv.symm.trans hv'
      exact .inr he
  · rw [if_neg he]
    refine ⟨?_, rfl, fun v' hv' => ?_⟩
    · rw [destutter'_concat hlast, if_pos (Bool.eq_false_iff.2 he), ← h.told]
      simp
    · cases hv.symm.trans hv'
      exact .inl rfl

end Tells

/-! ## Rehearsals -/

variable [BEq α]

namespace Rehearsal

open Pipeline (Same)

/-- A pipeline to which nothing has happened. -/
def start (initial : α) (window : Nat) : Rehearsal α := { pipeline := .start initial window }

/-- Rehearses an update at its instant. -/
def make (r : Rehearsal α) (u : Update α) : Rehearsal α :=
  let r := (r.step { action := .advance (u.acceptedAt - r.now) }).1
  (r.step { action := .update [u.value] }).1

/-- Rehearses updates at their instants, up to the instant `now`. -/
def playUntil (now : Nat) (us : List (Update α)) (r : Rehearsal α) : Rehearsal α :=
  let r := (us.takeWhile (·.acceptedAt ≤ now)).foldl make r
  (r.step { action := .advance (now - r.now) }).1

/-- What a pipeline has come to at the instant `now` after some updates: the last one waits for the
end of its window, and those that ended earlier bursts have settled. -/
structure Played (initial : α) (window : Nat) (us : List (Update α)) (now : Nat)
    (p : Pipeline α) : Prop where
  window_eq : p.window = window
  running : p.running = true
  held : p.held = true
  disposed : p.disposed = false
  queue : p.queue = []
  latest : p.latest = us.getLast?.filter (now < ·.acceptedAt + window)
  settled : Tells initial ((lastsBy window now us).map (·.value)) p.settled

variable {initial : α} {p : Pipeline α}

theorem settled_settle (hd : p.disposed = false) (value : α) :
    (p.settle value).settled =
      if p.settled.value == value then p.settled else p.settled.publish value := by
  rw [Pipeline.settle, hd, Bool.false_or]

/-- When the task runs later, the last update settles if its window is over then. -/
theorem Played.rest (h : Played initial window us now p) (ho : Ordered us)
    (hn : ∀ u ∈ us.getLast?, u.acceptedAt ≤ now) {later : Nat} (hl : now ≤ later) :
    Played initial window us later (Rehearsal.rest later p) := by
  have hby := lastsBy_of_le window ho hn hl
  rw [← h.latest] at hby
  have hlatest : us.getLast?.filter (later < ·.acceptedAt + window) =
      p.latest.filter (later < ·.acceptedAt + window) := by
    rw [h.latest]
    cases us.getLast? with
    | none => rfl
    | some u => simp only [Option.filter, decide_eq_true_eq]; grind
  cases hp : p.latest with
  | none =>
    have ht : p.turn later = none :=
      (Pipeline.turn_eq_none_iff h.running h.disposed).2 ⟨h.queue, by simp [hp]⟩
    rw [Pipeline.rest_of_none ht]
    refine ⟨h.window_eq, h.running, h.held, h.disposed, h.queue, ?_, ?_⟩
    · rw [hlatest, hp, Option.filter_none]
    · rw [hby, hp, Option.filter_none, Option.toList_none, List.append_nil]
      exact h.settled
  | some u =>
    rw [hp] at hby hlatest
    by_cases hover : u.acceptedAt + window ≤ later
    · have ht : Pipeline.Turn later p ({ p with latest := none }.settle u.value) :=
        .settle h.running h.disposed h.queue hp (h.window_eq ▸ hover)
      have ht' : ({ p with latest := none }.settle u.value).turn later = none :=
        (Pipeline.turn_eq_none_iff (p := { p with latest := none }.settle u.value)
          h.running h.disposed).2 ⟨h.queue, fun v hv => by cases hv⟩
      rw [ht.rest_eq ht']
      refine ⟨h.window_eq, h.running, h.held, h.disposed, h.queue, ?_, ?_⟩
      · rw [hlatest, Option.filter_some, if_neg (by simpa using hover)]
        rfl
      · rw [hby, Option.filter_some, if_pos (by simpa using hover), settled_settle (by exact h.disposed),
          List.map_append]
        exact h.settled.settle u.value
    · have ht : p.turn later = none := by
        refine (Pipeline.turn_eq_none_iff h.running h.disposed).2 ⟨h.queue, fun v hv => ?_⟩
        cases hp.symm.trans hv
        rw [h.window_eq]
        exact Nat.not_le.1 hover
      rw [Pipeline.rest_of_none ht]
      refine ⟨h.window_eq, h.running, h.held, h.disposed, h.queue, ?_, ?_⟩
      · rw [hlatest, hp, Option.filter_some, if_pos (by simpa using hover)]
      · rw [hby, Option.filter_some, if_neg (by simpa using hover), Option.toList_none,
          List.append_nil]
        exact h.settled

/-- Time passes, and the task runs whenever something is due. -/
theorem Played.passTime (ho : Ordered us) {target limit : Nat} (hl : now ≤ target)
    (hn : ∀ u ∈ us.getLast?, u.acceptedAt ≤ now) (h : Played initial window us now p) :
    Played initial window us target
      (Schedule.passTime Pipeline.due? Rehearsal.rest target limit now p) := by
  induction limit generalizing now p with
  | zero => exact h.rest ho hn hl
  | succ limit ih =>
    unfold Schedule.passTime
    split
    · next instant _ =>
      split
      · next hi =>
        simp only [Bool.and_eq_true, decide_eq_true_eq] at hi
        exact ih (Nat.le_of_lt hi.2) (fun u hu => by have := hn u hu; omega)
          (h.rest ho hn (Nat.le_of_lt hi.1))
      · exact h.rest ho hn hl
    · exact h.rest ho hn hl

/-- An update comes, and the task runs. -/
theorem Played.update (h : Played initial window us now p)
    (hn : ∀ u ∈ us.getLast?, u.acceptedAt ≤ now) (value : α) :
    Played initial window (us ++ [⟨value, now⟩]) now (Rehearsal.rest now (p.update now value)) := by
  have hby : lastsBy window now (us ++ [⟨value, now⟩]) =
      lastsBy window now us ++ if now + window ≤ now then [⟨value, now⟩] else [] :=
    lastsBy_concat fun u _ hu => hu
  rw [Pipeline.update_of_not_disposed h.disposed, h.queue, List.nil_append]
  have hr : (p.markPending now).running = true := Pipeline.running_markPending.trans h.running
  have hh : (p.markPending now).held = true := Pipeline.held_markPending.trans h.held
  have hd : (p.markPending now).disposed = false := Pipeline.disposed_markPending.trans h.disposed
  have hw : (p.markPending now).window = window := Pipeline.window_markPending.trans h.window_eq
  have hs : (p.markPending now).settled = p.settled := Pipeline.settled_markPending
  have hl : (p.markPending now).latest = p.latest := Pipeline.latest_markPending
  generalize p.markPending now = p' at *
  -- without a window the update settles at once, and else the task takes it and waits
  by_cases hz : window = 0
  · have hl : p'.latest = none := by
      rw [hl, h.latest, Option.filter_eq_none_iff]
      intro u hu
      simpa [hz] using hn u hu
    have ht : Pipeline.Turn now { p' with queue := [⟨value, now⟩] }
        ({ p' with queue := [] }.settle value) :=
      .settleAtOnce (p := { p' with queue := [⟨value, now⟩] }) (u := ⟨value, now⟩) hr hd rfl
        (hw.trans hz)
    have ht' : ({ p' with queue := [] }.settle value).turn now = none :=
      (Pipeline.turn_eq_none_iff (p := { p' with queue := [] }.settle value) hr hd).2
        ⟨rfl, fun u hu => by cases hl.symm.trans hu⟩
    rw [ht.rest_eq ht']
    refine ⟨hw, hr, hh, hd, rfl, ?_, ?_⟩
    · rw [List.getLast?_concat, Option.filter_some, if_neg (by simp [hz])]
      exact hl
    · rw [hby, if_pos (by omega), settled_settle (by exact hd), List.map_append]
      exact hs ▸ h.settled.settle value
  · have hz : 0 < window := Nat.pos_of_ne_zero hz
    have ht : Pipeline.Turn now { p' with queue := [⟨value, now⟩] }
        { { p' with queue := [] }.markPending now with latest := some ⟨value, now⟩ } :=
      .take (p := { p' with queue := [⟨value, now⟩] }) (u := ⟨value, now⟩) hr hd rfl (hw ▸ hz)
    have ht' : ({ { p' with queue := [] }.markPending now with latest := some ⟨value, now⟩ } :
        Pipeline α).turn now = none := by
      refine (Pipeline.turn_eq_none_iff (by simpa using hr) (by simpa using hd)).2
        ⟨by simp, fun u hu => ?_⟩
      cases hu
      simpa [hw] using hz
    rw [ht.rest_eq ht']
    refine ⟨by simpa using hw, by simpa using hr, by simpa using hh, by simpa using hd, by simp,
      ?_, ?_⟩
    · rw [List.getLast?_concat, Option.filter_some, if_pos (by simpa using hz)]
    · rw [hby, if_neg (by omega), List.append_nil]
      simpa [hs] using h.settled

theorem Played.start (initial : α) (window : Nat) :
    Played initial window [] 0 (.start initial window) :=
  ⟨rfl, rfl, rfl, rfl, rfl, rfl, .start initial⟩

/-- A step at which time passes. -/
theorem played_advance {r : Rehearsal α} (h : Played initial window us r.now r.pipeline)
    (ho : Ordered us) (hn : ∀ u ∈ us.getLast?, u.acceptedAt ≤ r.now) (hl : r.now ≤ now) :
    let r' := (r.step { action := .advance (now - r.now) }).1
    r'.now = now ∧ Played initial window us now r'.pipeline := by
  intro r'
  have ht : r.now + (now - r.now) = now := by omega
  have hp : Played initial window us now (r.advance (now - r.now)).pipeline := by
    show Played _ _ _ _ (Schedule.passTime _ _ (r.now + (now - r.now)) _ _ _)
    rw [ht]
    exact (h.rest ho hn (Nat.le_refl _)).passTime ho hl hn
  refine ⟨ht, ?_⟩
  show Played _ _ _ _ (Rehearsal.rest (r.now + (now - r.now)) _)
  rw [ht]
  exact hp.rest ho (fun u hu => Nat.le_trans (hn u hu) hl) (Nat.le_refl _)

/-- A step at which an update is made. -/
theorem played_update {r : Rehearsal α} (h : Played initial window us r.now r.pipeline)
    (hn : ∀ u ∈ us.getLast?, u.acceptedAt ≤ r.now) (value : α) :
    let r' := (r.step { action := .update [value] }).1
    r'.now = r.now ∧ Played initial window (us ++ [⟨value, r.now⟩]) r.now r'.pipeline := by
  have hh : r.act (.update [value]) = { r with pipeline := r.pipeline.update r.now value } :=
    if_pos h.held
  simp only [step, hh]
  exact ⟨rfl, h.update hn value⟩

/-- The last of some updates is made at the present instant. -/
theorem played_make (initial : α) (window : Nat) (ho : Ordered us) :
    let r := us.foldl make (start initial window)
    (∀ u ∈ us.getLast?, u.acceptedAt ≤ r.now) ∧
      (∀ now, (∀ u ∈ us, u.acceptedAt ≤ now) → r.now ≤ now) ∧
      Played initial window us r.now r.pipeline := by
  induction us using List.reverseRecOn with
  | nil => exact ⟨fun u hu => (by cases hu), fun now _ => Nat.zero_le now, .start initial window⟩
  | append_singleton us u ih =>
    obtain ⟨ho', -, hle⟩ := List.pairwise_append.1 ho
    obtain ⟨hn, hmin, hp⟩ := ih ho'
    have hl := hmin u.acceptedAt fun v hv => hle v hv u (List.mem_singleton_self u)
    rw [List.foldl_append, List.foldl_cons, List.foldl_nil]
    generalize us.foldl make (start initial window) = r at *
    obtain ⟨ht, hp⟩ := played_advance hp ho' hn hl
    unfold make
    generalize (r.step { action := .advance (u.acceptedAt - r.now) }).1 = r' at *
    have hn' : ∀ v ∈ us.getLast?, v.acceptedAt ≤ r'.now := fun v hv =>
      ht ▸ Nat.le_trans (hn v hv) hl
    obtain ⟨ht', hp⟩ := played_update (ht.symm ▸ hp) hn' u.value
    simp only
    rw [ht', ht] at *
    refine ⟨fun v hv => ?_, fun now hnow => hnow u (by simp), hp⟩
    rw [List.getLast?_concat] at hv
    cases hv
    exact Nat.le_refl _

/-- Whatever updates are made, and whenever: at every instant, if the task was never late, the
settled value is that of the last update of the last burst whose window is over, or the initial one
if there is none. Observers were told of the values with which the bursts ended, in that order, but
for those that were equal to what had settled before. -/
theorem settles_bursts (initial : α) (window : Nat) (us : List (Update α)) (ho : Ordered us)
    (now : Nat) :
    let r := (start initial window).playUntil now us
    let values := (lastsBy window now us).map (·.value)
    r.now = now ∧
    (∀ v ∈ (initial :: values).getLast?, Same r.pipeline.settled.value v ∧
      (ReflBEq α → (r.pipeline.settled.value == v) = true)) ∧
    initial :: r.pipeline.settled.published.reverse =
      values.destutter' (fun settled value => (settled == value) = false) initial := by
  have hpre : ∀ u ∈ us.takeWhile (·.acceptedAt ≤ now), u.acceptedAt ≤ now := fun u hu => by
    simpa using List.mem_takeWhile_imp hu
  have hby : lastsBy window now (us.takeWhile (·.acceptedAt ≤ now) ++
      us.dropWhile (·.acceptedAt ≤ now)) = lastsBy window now (us.takeWhile (·.acceptedAt ≤ now)) :=
    lastsBy_append ho.lt_of_mem_dropWhile
  rw [List.takeWhile_append_dropWhile] at hby
  have ho' : Ordered (us.takeWhile (·.acceptedAt ≤ now)) :=
    ho.sublist (List.takeWhile_sublist _)
  obtain ⟨hn, hmin, hp⟩ := played_make initial window ho'
  obtain ⟨ht, hp⟩ := played_advance hp ho' hn (hmin now hpre)
  rw [hby]
  refine ⟨ht, fun v hv => ?_, hp.settled.told⟩
  have hs := hp.settled.same v hv
  refine ⟨hs, fun _ => ?_⟩
  rcases hs with he | he
  · rw [playUntil, he]
    exact BEq.rfl
  · exact he

/-- Two updates within 300, one that repeats the last value exactly 300 later, and another one after
the same time. -/
def repeated : List (Update String) :=
  [⟨"a", 0⟩, ⟨"b", 100⟩, ⟨"b", 400⟩, ⟨"c", 700⟩]

/-- Three bursts settle, and observers are told of two changes. -/
theorem settles_bursts_repeated :
    Ordered repeated ∧
      let r := (start "" 300).playUntil 1000 repeated
      (lastsBy 300 1000 repeated).map (·.value) = ["b", "b", "c"] ∧
        (r.pipeline.settled.value == "c") = true ∧
        "" :: r.pipeline.settled.published.reverse = ["", "b", "c"] := by
  have ho : Ordered repeated := by decide
  obtain ⟨-, hs, ht⟩ := settles_bursts "" 300 repeated ho 1000
  exact ⟨ho, by decide, (hs "c" (by decide)).2 inferInstance, ht.trans (by decide)⟩

end Rehearsal

end BackendMonitor.Debounce
