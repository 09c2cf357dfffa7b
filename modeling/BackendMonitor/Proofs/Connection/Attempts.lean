import BackendMonitor.Proofs.Connection.Run

/-!
# Attempts of a connection

A connection is meant for one address, that of the first request to connect that comes before its
end (`firstUrl`). All its attempts go there, each of them is a milestone, and there are none of
which its history does not know (`Run.Addressed`, `Run.addressed_after`).
-/

namespace BackendMonitor.Connection

/-- The address of an attempt. -/
def Call.url? : Call → Option String
  | .attempt url => some url
  | _ => none

/-- The attempts that were made, with their instants and addresses, newest first. -/
def attempts (c : Connection) : List (Nat × String) :=
  c.calls.filterMap fun x => x.2.url?.map (x.1, ·)

/-- The instants of the attempts that a history knows of, newest first. -/
def History.attemptedAt (h : History) : List Nat :=
  h.filterMap fun x => if x.2 = .attempted then some x.1 else none

/-- The address that the task connects to. -/
def Task.url? : Task → Option String
  | .starting url | .opening url _ _ | .pumping url _ | .writing url _ _ | .waiting url _ =>
    some url
  | _ => none

/-- The address of the first request to connect before the end of the connection. -/
def firstUrl : List Event → Option String
  | [] => none
  | .connect url :: _ => some url
  | e :: es => if e.isTeardown then none else firstUrl es

theorem firstUrl_concat (es : List Event) (e : Event) :
    firstUrl (es ++ [e]) =
      (firstUrl es).or (if es.any (·.isTeardown) then none else e.url?) := by
  induction es with
  | nil => cases e <;> rfl
  | cons e' es ih =>
    cases e' with
    | connect url => rfl
    | dispose | drop => rfl
    | send | news | turn | pass => exact ih

/-! ## Turns -/

theorem disposed_deliver (payload : String) (c : Connection) :
    (c.deliver payload).disposed = c.disposed := by
  unfold deliver
  simp only
  split <;> rfl

theorem calls_deliver (payload : String) (c : Connection) :
    (c.deliver payload).calls = c.calls := by
  unfold deliver
  simp only
  split <;> rfl

theorem Turn.disposed {now : Nat} {c c' : Connection} (h : Turn now c c') :
    c'.disposed = c.disposed := by
  cases h with
  | opened => exact disposed_become _ _
  | refused | timedOut | lost => exact disposed_become _ _
  | message => exact disposed_deliver _ _
  | _ => rfl

/-- A step that makes no attempt, and leaves it to the task where to connect to. -/
structure NoAttempt (c c' : Connection) : Prop where
  attempts : c'.attempts = c.attempts
  milestone : c.task.milestone? c'.task ≠ some .attempted
  unstarted : c'.task = .unstarted → c.task = .unstarted
  url : ∀ url ∈ c'.task.url?, c.task.url? = some url

theorem attempts_congr {c c' : Connection} (hc : c'.calls = c.calls) :
    c'.attempts = c.attempts := by
  rw [attempts, hc, attempts]

theorem NoAttempt.of_task_eq {c c' : Connection} (hc : c'.calls = c.calls)
    (ht : c'.task = c.task) : NoAttempt c c' := by
  refine ⟨attempts_congr hc, ?_, fun h => ht ▸ h, fun url h => ht ▸ h⟩
  rw [ht, Task.milestone?_self]
  exact fun h => by cases h

/-- The task goes from `t` to `t'`. -/
theorem NoAttempt.of_move {c c' : Connection} {t t' : Task} (ha : c'.attempts = c.attempts)
    (ht : c.task = t) (ht' : c'.task = t')
    (hm : (t.milestone? t' != some .attempted && t' != .unstarted) = true)
    (hu : ∀ url ∈ t'.url?, t.url? = some url) : NoAttempt c c' := by
  subst ht ht'
  obtain ⟨hm, hn⟩ := (Bool.and_eq_true _ _).mp hm
  exact ⟨ha, bne_iff_ne.1 hm, fun h => absurd h (bne_iff_ne.1 hn), hu⟩

/-- A turn makes an attempt at the address of the task, which is a milestone, or it makes none. -/
theorem Turn.attempts {now : Nat} {c c' : Connection} (h : Turn now c c') :
    (∃ url, c.task.url? = some url ∧ c'.task.url? = some url ∧ c'.task ≠ .unstarted ∧
        c'.attempts = (now, url) :: c.attempts ∧ c.task.milestone? c'.task = some .attempted) ∨
      NoAttempt c c' := by
  have lost : ∀ url, (c.onLost now url).attempts = c.attempts := fun url =>
    attempts_congr (calls_become _ _)
  cases h with
  | @start url hd ht =>
    refine .inl ⟨url, ?_, rfl, fun h => (by cases h), rfl, ?_⟩ <;> rw [ht] <;> rfl
  | @again url next hd ht hn =>
    refine .inl ⟨url, ?_, rfl, fun h => (by cases h), rfl, ?_⟩ <;> rw [ht] <;> rfl
  | stop hd hr hs =>
    refine .inr (.of_move rfl rfl rfl ?_ fun _ h => by cases h)
    show (c.task.milestone? .ended != some .attempted && Task.ended != .unstarted) = true
    rw [Task.milestone?_ended]
    rfl
  | @opened url deadline hd ht =>
    have ha : (c.onOpened url).attempts = c.attempts := attempts_congr (calls_become _ _)
    exact .inr (.of_move ha ht rfl rfl fun _ => id)
  | @refused url deadline f hd ht => exact .inr (.of_move (lost url) ht rfl rfl fun _ => id)
  | @timedOut url deadline hd ht => exact .inr (.of_move (lost url) ht rfl rfl fun _ => id)
  | @lost url s inbox hd ht => exact .inr (.of_move (lost url) ht rfl rfl fun _ => id)
  | @message url s payload inbox hd ht =>
    have ha : (c.deliver payload).attempts = c.attempts := attempts_congr (calls_deliver _ _)
    exact .inr (.of_move ha ht rfl rfl fun _ => id)
  | write hd ht | error hd ht => exact .inr (.of_move rfl ht rfl rfl fun _ => id)
  | written ht => exact .inr (.of_move rfl ht rfl rfl fun _ => id)
  | close hd ht => exact .inr (.of_move rfl ht rfl rfl fun _ h => by cases h)
  | closed ht => exact .inr (.of_move rfl ht rfl rfl fun _ h => by cases h)

theorem noAttempt_notice (n : News) (c : Connection) : NoAttempt c (c.notice n) := by
  unfold notice
  split
  · next ht => exact .of_move rfl ht rfl rfl fun _ => id
  · next ht => exact .of_move rfl ht rfl rfl fun _ => id
  · next ht => exact .of_move rfl ht rfl rfl fun _ h => by cases h
  · cases ht : c.task with
    | pumping | writing => exact .of_move rfl ht rfl rfl fun _ => id
    | closing => exact .of_move rfl ht rfl rfl fun _ h => by cases h
    | _ => exact .of_task_eq rfl ht.symm
  · exact .of_task_eq rfl rfl

/-! ## Steps -/

/-- The owner alone tears the connection down, and for good. -/
theorem disposed_act (now : Nat) (c : Connection) (e : Event) :
    (e.act now c).disposed = (c.disposed || e.isTeardown) := by
  cases e with
  | connect url =>
    simp only [Event.act, connect]
    split
    · exact (Bool.or_false _).symm
    · split <;> exact (Bool.or_false _).symm
  | send frame =>
    simp only [Event.act, send]
    split <;> exact (Bool.or_false _).symm
  | dispose | drop =>
    simp only [Event.act, drop, dispose]
    split
    · next hd => rw [hd]; rfl
    · exact (Bool.or_true _).symm
  | news n =>
    simp only [Event.act, notice]
    split <;> exact (Bool.or_false _).symm
  | turn =>
    simp only [Event.act]
    cases ht : c.turn now with
    | none => exact (Bool.or_false _).symm
    | some c' => exact (turn_eq_some ht).disposed.trans (Bool.or_false _).symm
  | pass ms => exact (Bool.or_false _).symm

namespace Run

/-- What the task and its attempts have to do with what happened. -/
structure Addressed (es : List Event) (r : Run) : Prop where
  disposed : r.connection.disposed = es.any (·.isTeardown)
  unstarted : r.connection.task = .unstarted → r.connection.disposed = false → firstUrl es = none
  url : ∀ url ∈ r.connection.task.url?, firstUrl es = some url
  attempts : ∀ a ∈ r.connection.attempts, firstUrl es = some a.2
  noted : r.connection.attempts.map (·.1) = r.history.attemptedAt

/-- A step that makes no attempt keeps all, unless it is the first to ask for an address. -/
theorem Addressed.noAttempt {es : List Event} {r : Run} (h : Addressed es r) (e : Event)
    (hn : NoAttempt r.connection (e.act r.now r.connection))
    (hu : (e.act r.now r.connection).task = .unstarted →
      (e.act r.now r.connection).disposed = false → e.url? = none) :
    Addressed (es ++ [e]) (r.step e) := by
  have hd := disposed_act r.now r.connection e
  have keep : ∀ {url}, firstUrl es = some url → firstUrl (es ++ [e]) = some url := by
    intro url hf
    rw [firstUrl_concat, hf]
    rfl
  refine ⟨?_, fun ht hd' => ?_, fun url hl => keep (h.url url (hn.url url hl)), fun a ha => ?_, ?_⟩
  · rw [List.any_append, ← h.disposed]
    exact hd.trans (by simp)
  · have hr : r.connection.disposed = false := (Bool.or_eq_false_iff.1 (hd.symm.trans hd')).1
    rw [firstUrl_concat, h.unstarted (hn.unstarted ht) hr, hu ht hd']
    split <;> rfl
  · rw [show (r.step e).connection.attempts = _ from hn.attempts] at ha
    exact keep (h.attempts a ha)
  · rw [show (r.step e).connection.attempts = _ from hn.attempts, h.noted]
    simp only [step, History.note]
    split
    · next m hm =>
      have hne : m ≠ .attempted := fun hne => hn.milestone (hne ▸ hm)
      simp [History.attemptedAt, hne]
    · rfl

/-- The first request to connect tells the address. -/
theorem Addressed.connect {es : List Event} {r : Run} (h : Addressed es r) (url : String) :
    Addressed (es ++ [.connect url]) (r.step (.connect url)) := by
  by_cases hc : r.connection.disposed = false ∧ r.connection.task = .unstarted
  · obtain ⟨hd, ht⟩ := hc
    have ha : r.connection.connect url = r.connection.proceed (.starting url) := by
      unfold Connection.connect
      rw [if_neg (by simp [hd]), ht]
    have hf : firstUrl (es ++ [.connect url]) = some url := by
      rw [firstUrl_concat, h.unstarted ht hd, ← h.disposed, hd]
      rfl
    have hn : r.history.note r.now r.connection.task (.starting url) = r.history :=
      History.note_of_none (by rw [ht]; rfl) _
    have hs : r.step (.connect url) =
        { r with connection := r.connection.proceed (.starting url) } := by
      simp only [step, Event.act, ha, Event.duration, Nat.add_zero, proceed, hn]
    rw [hs]
    refine ⟨?_, fun hu => (by cases hu), fun url' hl => ?_, fun a ha => ?_, h.noted⟩
    · rw [List.any_append, ← h.disposed]
      simp [proceed, Event.isTeardown]
    · rw [hf]; exact hl
    · have hx := h.attempts a ha
      rw [h.unstarted ht hd] at hx
      cases hx
  · have ha : r.connection.connect url = r.connection := by
      unfold Connection.connect
      split
      · rfl
      · next hd =>
        split
        · next ht => exact absurd ⟨by simpa using hd, ht⟩ hc
        · rfl
    refine h.noAttempt _ ?_ fun ht hd => absurd ⟨?_, ?_⟩ hc
    · rw [Event.act, ha]; exact .of_task_eq rfl rfl
    · rwa [Event.act, ha] at hd
    · rwa [Event.act, ha] at ht

theorem Addressed.turn {es : List Event} {r : Run} (h : Addressed es r) :
    Addressed (es ++ [.turn]) (r.step .turn) := by
  cases ht : r.connection.turn r.now with
  | none =>
    have ha : Event.act r.now r.connection .turn = r.connection := by rw [Event.act, ht]; rfl
    exact h.noAttempt _ (by rw [ha]; exact .of_task_eq rfl rfl) fun _ _ => rfl
  | some c =>
    have ha : Event.act r.now r.connection .turn = c := by rw [Event.act, ht]; rfl
    rcases (turn_eq_some ht).attempts with ⟨url, hl, hl', hu, hc, hm⟩ | hn
    · have hf : firstUrl (es ++ [.turn]) = some url := by
        rw [firstUrl_concat, h.url url hl]
        rfl
      have hd := disposed_act r.now r.connection .turn
      rw [ha] at hd
      have hs : r.step .turn =
          { r with connection := c, history := (r.now, .attempted) :: r.history } := by
        simp only [step, ha, Event.duration, Nat.add_zero, History.note_of_some hm]
      rw [hs]
      refine ⟨?_, fun hu' => absurd hu' hu, fun url' hl'' => ?_, fun a ha => ?_, ?_⟩
      · rw [List.any_append, ← h.disposed]
        exact hd.trans (by simp)
      · rw [hf]; exact hl'.symm.trans hl''
      · rw [hf]
        simp only [hc, List.mem_cons] at ha
        rcases ha with rfl | ha
        · rfl
        · rw [← h.url url hl]; exact h.attempts a ha
      · simp only [hc, List.map_cons, h.noted]
        rfl
    · exact h.noAttempt _ (by rw [ha]; exact hn) fun _ _ => rfl

theorem addressed_step {es : List Event} {r : Run} (e : Event) (h : Addressed es r) :
    Addressed (es ++ [e]) (r.step e) := by
  cases e with
  | connect url => exact h.connect url
  | turn => exact h.turn
  | send frame =>
    refine h.noAttempt _ ?_ fun _ _ => rfl
    simp only [Event.act, Connection.send]
    split <;> exact .of_task_eq rfl rfl
  | dispose | drop =>
    refine h.noAttempt _ ?_ fun _ _ => rfl
    simp only [Event.act, drop, dispose]
    split <;> exact .of_task_eq rfl rfl
  | news n => exact h.noAttempt _ (noAttempt_notice n _) fun _ _ => rfl
  | pass ms => exact h.noAttempt _ (.of_task_eq rfl rfl) fun _ _ => rfl

theorem addressed_after (policy : ReconnectPolicy) (es : List Event) :
    Addressed es ((start policy).after es) :=
  after_induction Addressed
    ⟨rfl, fun _ _ => rfl, fun _ h => (by cases h), fun _ h => absurd h List.not_mem_nil, rfl⟩
    (fun _ e h => addressed_step e h) es

end Run

end BackendMonitor.Connection
