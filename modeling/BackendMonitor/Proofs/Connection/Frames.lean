import BackendMonitor.Proofs.Connection.Coherence

/-!
# Frames of a connection

All frames of the owner go through one queue, which outlives the sockets. A frame that is accepted
is meant for the socket that is the current one then, and goes to no other:

* `Run.sendings`: what became of each request to send a frame, and `acceptedFor`, the frames that
  were accepted for a socket;
* `handed`: the frames that were handed to a socket;
* `Carried`: how the two belong together, which every step keeps;
* `Run.FramesStay`: how frames stand to sockets, and `Run.frames_stay_with_their_socket`: so they do
  in every run.
-/

namespace BackendMonitor.Connection

/-! ## Sockets and their frames -/

/-- The number of the socket that the task holds. -/
def current? (c : Connection) : Option Nat :=
  c.task.socket?.map (·.number)

/-- A request of the owner to send a frame. -/
structure Sending where
  frame : String
  /-- The number of the socket that the task held then. -/
  socket : Option Nat
  accepted : Bool
deriving DecidableEq, Repr

/-- The frame of a request that was accepted while socket `k` was the current one. -/
def Sending.frameFor? (k : Nat) (s : Sending) : Option String :=
  if s.accepted ∧ s.socket = some k then some s.frame else none

/-- The frames that were accepted while socket `k` was the current one, in order. -/
def acceptedFor (k : Nat) (ss : List Sending) : List String :=
  ss.filterMap (·.frameFor? k)

/-- The frame that a call hands to socket `k`. -/
def Call.frameFor? (k : Nat) : Call → Option String
  | .write socket frame => if socket = k then some frame else none
  | _ => none

/-- The frames that were handed to socket `k`, in order, whether or not it could write them. -/
def handed (k : Nat) (c : Connection) : List String :=
  (c.calls.filterMap (·.2.frameFor? k)).reverse

/-- The request that an event is. -/
def Event.sending? (c : Connection) : Event → Option Sending
  | .send frame => some ⟨frame, c.current?, (c.send frame).2⟩
  | _ => none

/-- All requests to send a frame among some events, in order. -/
def Run.sendings (r : Run) : List Event → List Sending
  | [] => []
  | e :: es => (e.sending? r.connection).toList ++ (r.step e).sendings es

theorem Run.sendings_append (r : Run) (es fs : List Event) :
    r.sendings (es ++ fs) = r.sendings es ++ (r.after es).sendings fs := by
  induction es generalizing r with
  | nil => rfl
  | cons e es ih =>
    show (e.sending? r.connection).toList ++ (r.step e).sendings (es ++ fs) = _
    rw [ih, ← List.append_assoc]
    rfl

theorem acceptedFor_append (k : Nat) (ss ts : List Sending) :
    acceptedFor k (ss ++ ts) = acceptedFor k ss ++ acceptedFor k ts :=
  List.filterMap_append

theorem handed_congr {c c' : Connection} (k : Nat) (h : c'.calls = c.calls) :
    c'.handed k = c.handed k := by
  rw [handed, h, handed]

/-- A frame is accepted just while the connection is connected. -/
theorem send_accepts_iff (frame : String) (c : Connection) :
    (c.send frame).2 = true ↔ c.disposed = false ∧ c.state.value = .connected := by
  unfold send
  split
  · next h =>
    refine ⟨fun h' => (by cases h'), fun ⟨hd, hs⟩ => ?_⟩
    rw [hd, hs] at h
    cases h
  · next h =>
    have h : c.disposed = false ∧ c.state.value.isConnected = true := by simpa using h
    exact ⟨fun _ => ⟨h.1, eq_of_beq h.2⟩, fun _ => rfl⟩

theorem send_of_refused {frame : String} {c : Connection} (h : (c.send frame).2 = false) :
    (c.send frame).1 = c := by
  unfold send at h ⊢
  split
  · rfl
  · next hn => rw [if_neg hn] at h; cases h

theorem send_of_accepted {frame : String} {c : Connection} (h : (c.send frame).2 = true) :
    (c.send frame).1 = { c with queue := c.queue ++ [frame] } := by
  unfold send at h ⊢
  split
  · next hn => rw [if_pos hn] at h; cases h
  · rfl

/-! ## Turns -/

/-- A step that neither takes frames nor opens a socket. -/
structure Idle (c c' : Connection) : Prop where
  handed : ∀ k, c'.handed k = c.handed k
  queue : c'.queue = c.queue
  opened : c'.opened = c.opened
  current : ∀ k, c'.current? = some k → c.current? = some k
  /-- Frames are left behind only at the end of the connection. -/
  left : c.queue = [] ∨ c.task.isPumping = c'.task.isPumping ∨ c'.disposed = true
  milestone : c.task.milestone? c'.task ≠ some .opened

/-- The task goes from `t` to `t'`. -/
theorem Idle.of_move {c c' : Connection} {t t' : Task} (hh : ∀ k, c'.handed k = c.handed k)
    (hq : c'.queue = c.queue) (ho : c'.opened = c.opened) (ht : c.task = t) (ht' : c'.task = t')
    (hs : ∀ s' ∈ t'.socket?, ∃ s ∈ t.socket?, s.number = s'.number)
    (hl : c.queue = [] ∨ t.isPumping = t'.isPumping ∨ c'.disposed = true)
    (hm : (t.milestone? t' != some .opened) = true) : Idle c c' := by
  subst ht ht'
  refine ⟨hh, hq, ho, fun k hk => ?_, hl, bne_iff_ne.1 hm⟩
  obtain ⟨s', hs', rfl⟩ := Option.map_eq_some_iff.1 hk
  obtain ⟨s, hs, he⟩ := hs s' hs'
  exact Option.map_eq_some_iff.2 ⟨s, hs, he⟩

theorem Idle.of_task_eq {c c' : Connection} (hc : c'.calls = c.calls) (hq : c'.queue = c.queue)
    (ho : c'.opened = c.opened) (ht : c'.task = c.task) : Idle c c' := by
  refine ⟨fun k => handed_congr k hc, hq, ho, fun k hk => ?_, .inr (.inl (by rw [ht])), ?_⟩
  · rwa [current?, ← ht]
  · rw [ht, Task.milestone?_self]
    exact fun h => by cases h

theorem queue_deliver (payload : String) (c : Connection) :
    (c.deliver payload).queue = c.queue := by
  unfold deliver
  simp only
  split <;> rfl

theorem opened_deliver (payload : String) (c : Connection) :
    (c.deliver payload).opened = c.opened := by
  unfold deliver
  simp only
  split <;> rfl

/-- The state of a connection whose socket was just opened. -/
structure Opened (c c' : Connection) : Prop where
  calls : c'.calls = c.calls
  queue : c'.queue = []
  opened : c'.opened = c.opened + 1
  current : c'.current? = some (c.opened + 1)
  milestone : c.task.milestone? c'.task = some .opened
  before : c.task.isPumping = false ∧ c.disposed = false

/-- The task hands the first frame in the queue to its socket. -/
structure Wrote (c c' : Connection) : Prop where
  write : ∃ s frame now, c.task.socket? = some s ∧ c.queue = frame :: c'.queue ∧
    c'.calls = (now, .write s.number frame) :: c.calls
  opened : c'.opened = c.opened
  current : c'.current? = c.current?
  pumping : c'.task.isPumping = true
  milestone : c.task.milestone? c'.task = none

/-- What a turn does to frames. -/
theorem Turn.frames {now : Nat} {c c' : Connection} (h : Turn now c c') :
    Opened c c' ∨ Wrote c c' ∨ Idle c c' := by
  have lost : ∀ url k, (c.onLost now url).handed k = c.handed k := fun url k =>
    handed_congr k (calls_become _ _)
  have lostQueue : ∀ url, (c.onLost now url).queue = c.queue := fun url => queue_become _ _
  have lostOpened : ∀ url, (c.onLost now url).opened = c.opened := fun url => opened_become _ _
  cases h with
  | @opened url deadline hd ht =>
    have hc : (c.onOpened url).calls = c.calls := calls_become _ _
    have hq : (c.onOpened url).queue = [] := queue_become _ _
    have ho : (c.onOpened url).opened = c.opened + 1 := opened_become _ _
    exact .inl ⟨hc, hq, ho, rfl, by rw [ht]; rfl, by rw [ht]; rfl, hd⟩
  | @write url s frame queue hd ht hq =>
    refine .inr (.inl ⟨⟨s, frame, now, by rw [ht]; rfl, hq, rfl⟩, rfl, ?_, rfl, by rw [ht]; rfl⟩)
    show some s.number = c.task.socket?.map (·.number)
    rw [ht]
    rfl
  | stop hd hr hs =>
    refine .inr (.inr (.of_move (fun _ => rfl) rfl rfl rfl rfl ?_ (.inr (.inr hd)) ?_))
    · exact fun _ h => by cases h
    · show (c.task.milestone? .ended != some .opened) = true
      rw [Task.milestone?_ended]
      rfl
  | @start url hd ht | @again url next hd ht hn =>
    exact .inr (.inr (.of_move (fun _ => rfl) rfl rfl ht rfl (fun _ h => by cases h)
      (.inr (.inl rfl)) rfl))
  | @refused url deadline f hd ht | @timedOut url deadline hd ht =>
    exact .inr (.inr (.of_move (lost url) (lostQueue url) (lostOpened url) ht rfl
      (fun _ h => by cases h) (.inr (.inl rfl)) rfl))
  | @lost url s inbox hd ht hq =>
    exact .inr (.inr (.of_move (lost url) (lostQueue url) (lostOpened url) ht rfl
      (fun _ h => by cases h) (.inl hq) rfl))
  | @message url s payload inbox hd ht =>
    have hh : ∀ k, (c.deliver payload).handed k = c.handed k := fun k =>
      handed_congr k (calls_deliver _ _)
    exact .inr (.inr (.of_move hh (queue_deliver _ _) (opened_deliver _ _) ht rfl
      (fun _ h => by cases h; exact ⟨s, rfl, rfl⟩) (.inr (.inl rfl)) rfl))
  | @error url s reason inbox hd ht =>
    exact .inr (.inr (.of_move (fun _ => rfl) rfl rfl ht rfl
      (fun _ h => by cases h; exact ⟨s, rfl, rfl⟩) (.inr (.inl rfl)) rfl))
  | @written url s ht =>
    exact .inr (.inr (.of_move (fun _ => rfl) rfl rfl ht rfl
      (fun _ h => by cases h; exact ⟨s, rfl, rfl⟩) (.inr (.inl rfl)) rfl))
  | @close url s hd ht =>
    exact .inr (.inr (.of_move (fun _ => rfl) rfl rfl ht rfl
      (fun _ h => by cases h; exact ⟨s, rfl, rfl⟩) (.inr (.inr hd)) rfl))
  | closed ht =>
    exact .inr (.inr (.of_move (fun _ => rfl) rfl rfl ht rfl (fun _ h => by cases h)
      (.inr (.inl rfl)) rfl))

/-! ## Steps -/

theorem History.countP_note (now : Nat) (t t' : Task) (h : History) (m : Milestone) :
    (h.note now t t').countP (·.2 = m) =
      h.countP (·.2 = m) + if t.milestone? t' = some m then 1 else 0 := by
  cases hm : t.milestone? t' with
  | none => rw [note_of_none hm]; rfl
  | some m' =>
    rw [note_of_some hm, List.countP_cons]
    simp only [decide_eq_true_eq, Option.some.injEq]

theorem Task.socket?_of_isPumping {t : Task} (h : t.isPumping = true) :
    ∃ s, t.socket? = some s := by
  cases t with
  | pumping url s | writing url s finished => exact ⟨s, rfl⟩
  | _ => cases h

/-- How the frames that were accepted belong to those that were handed over: what was accepted for a
socket was handed to it, in order, but for what is in the queue, which was accepted for the socket
opened last. -/
structure Carried (ss : List Sending) (h : History) (c : Connection) : Prop where
  meant : ∀ s ∈ ss, s.accepted = true → ∃ k ≤ c.opened, s.socket = some k
  frames : ∀ k, acceptedFor k ss = c.handed k ++ if k = c.opened then c.queue else []
  queue : c.queue ≠ [] → c.task.isPumping = true ∨ c.disposed = true
  current : ∀ k, c.current? = some k → k = c.opened
  opened : c.opened = h.countP (·.2 = .opened)

section Carried

variable {ss : List Sending} {h : History} {c c' : Connection}

theorem Carried.idle (hc : Carried ss h c) (hi : Idle c c')
    (hd : c.disposed = true → c'.disposed = true) (now : Nat) :
    Carried ss (h.note now c.task c'.task) c' := by
  refine ⟨?_, fun k => ?_, fun hq => ?_, fun k hk => ?_, ?_⟩
  · rw [hi.opened]
    exact hc.meant
  · rw [hi.handed, hi.queue, hi.opened]
    exact hc.frames k
  · rw [hi.queue] at hq
    rcases hi.left with he | hp | hd'
    · exact absurd he hq
    · rw [← hp]
      exact (hc.queue hq).imp_right hd
    · exact .inr hd'
  · rw [hi.opened]
    exact hc.current k (hi.current k hk)
  · rw [hi.opened, History.countP_note, if_neg hi.milestone]
    exact hc.opened

/-- Until a socket is opened the queue is empty. -/
theorem Carried.queue_eq_nil (hc : Carried ss h c) (hp : c.task.isPumping = false)
    (hd : c.disposed = false) : c.queue = [] := by
  refine Classical.byContradiction fun hq => ?_
  rcases hc.queue hq with h | h
  · cases hp.symm.trans h
  · cases hd.symm.trans h

theorem Carried.socketOpened (hc : Carried ss h c) (ho : Opened c c') (now : Nat) :
    Carried ss (h.note now c.task c'.task) c' := by
  have hq := hc.queue_eq_nil ho.before.1 ho.before.2
  refine ⟨fun s hs ha => ?_, fun k => ?_, fun hq' => absurd ho.queue hq', fun k hk => ?_, ?_⟩
  · obtain ⟨k, hk, he⟩ := hc.meant s hs ha
    exact ⟨k, by rw [ho.opened]; omega, he⟩
  · have hf := hc.frames k
    rw [hq, ite_self] at hf
    rw [handed_congr k ho.calls, ho.queue, ite_self]
    exact hf
  · rw [ho.current] at hk
    rw [ho.opened, Option.some.inj hk]
  · rw [ho.opened, History.countP_note, if_pos ho.milestone, hc.opened]

theorem Carried.wrote (hc : Carried ss h c) (hw : Wrote c c') (now : Nat) :
    Carried ss (h.note now c.task c'.task) c' := by
  obtain ⟨s, frame, t, hs, hq, hcalls⟩ := hw.write
  have hn : s.number = c.opened := hc.current _ (by rw [current?, hs]; rfl)
  refine ⟨?_, fun k => ?_, fun _ => .inl hw.pumping, fun k hk => ?_, ?_⟩
  · rw [hw.opened]
    exact hc.meant
  · have hh : c'.handed k = c.handed k ++ if k = c.opened then [frame] else [] := by
      by_cases hk : k = c.opened
      · simp [handed, hcalls, Call.frameFor?, hn, hk]
      · simp [handed, hcalls, Call.frameFor?, hn, hk, Ne.symm hk]
    rw [hc.frames, hh, hw.opened, hq, List.append_assoc]
    by_cases hk : k = c.opened
    · rw [if_pos hk, if_pos hk, if_pos hk]; rfl
    · rw [if_neg hk, if_neg hk, if_neg hk]; rfl
  · rw [hw.opened]
    exact hc.current k (hw.current ▸ hk)
  · rw [hw.opened, History.countP_note, hw.milestone, hc.opened]
    rfl

/-- While the connection is connected, the current socket is the one that was opened last. -/
theorem Carried.current_of_connected (hc : Carried ss h c) (ha : Agrees h c)
    (hd : c.disposed = false) (hv : c.state.value = .connected) : c.current? = some c.opened := by
  have hp : c.task.isPumping = true := by
    rw [ha.state hd, Task.state] at hv
    cases hp : c.task.isPumping with
    | true => rfl
    | false => rw [hp] at hv; cases hh : h.hasResult <;> rw [hh] at hv <;> cases hv
  obtain ⟨s, hs⟩ := Task.socket?_of_isPumping hp
  have hn : c.current? = some s.number := by rw [current?, hs]; rfl
  rw [hn, hc.current _ hn]

/-- A frame that is accepted is meant for the current socket, and waits in the queue. -/
theorem Carried.send (hc : Carried ss h c) (ha : Agrees h c) (frame : String) :
    Carried (ss ++ [⟨frame, c.current?, (c.send frame).2⟩]) h (c.send frame).1 := by
  cases hs : (c.send frame).2 with
  | false =>
    rw [send_of_refused hs]
    refine ⟨fun s hs ha => ?_, fun k => ?_, hc.queue, hc.current, hc.opened⟩
    · rcases List.mem_append.1 hs with hs | hs
      · exact hc.meant s hs ha
      · cases List.mem_singleton.1 hs
        cases ha
    · rw [acceptedFor_append, hc.frames]
      simp [acceptedFor, Sending.frameFor?]
  | true =>
    obtain ⟨hd, hv⟩ := (send_accepts_iff frame c).1 hs
    have hk := hc.current_of_connected ha hd hv
    have hp : c.task.isPumping = true := by
      cases ht : c.task with
      | pumping | writing => rfl
      | closing => cases hd.symm.trans (ha.leaving (by rw [ht]; rfl))
      | _ => rw [current?, ht] at hk; cases hk
    rw [send_of_accepted hs]
    refine ⟨fun s hs ha => ?_, fun k => ?_, fun _ => .inl hp, hc.current, hc.opened⟩
    · rcases List.mem_append.1 hs with hs | hs
      · exact hc.meant s hs ha
      · cases List.mem_singleton.1 hs
        exact ⟨c.opened, Nat.le_refl _, hk⟩
    · show _ = c.handed k ++ if k = c.opened then c.queue ++ [frame] else []
      rw [acceptedFor_append, hc.frames, hk]
      by_cases he : k = c.opened
      · simp [acceptedFor, Sending.frameFor?, he]
      · simp [acceptedFor, Sending.frameFor?, he, Ne.symm he]

end Carried

/-- What neither sends nor turns leaves the frames alone. -/
theorem idle_act (now : Nat) (c : Connection) {e : Event} (he : e ≠ .turn)
    (hs : e.sending? c = none) : Idle c (e.act now c) := by
  cases e with
  | connect url =>
    simp only [Event.act, connect]
    split
    · exact .of_task_eq rfl rfl rfl rfl
    · split
      · next ht =>
        exact .of_move (fun _ => rfl) rfl rfl ht rfl (fun _ h => by cases h) (.inr (.inl rfl)) rfl
      · exact .of_task_eq rfl rfl rfl rfl
  | send frame => cases hs
  | dispose | drop =>
    simp only [Event.act, drop, dispose]
    split <;> exact .of_task_eq rfl rfl rfl rfl
  | news n =>
    simp only [Event.act, notice]
    split
    · next ht =>
      exact .of_move (fun _ => rfl) rfl rfl ht rfl (fun _ h => by cases h) (.inr (.inl rfl)) rfl
    · next url s finished ht =>
      exact .of_move (fun _ => rfl) rfl rfl ht rfl (fun _ h => by cases h; exact ⟨s, rfl, rfl⟩)
        (.inr (.inl rfl)) rfl
    · next s finished ht =>
      exact .of_move (fun _ => rfl) rfl rfl ht rfl (fun _ h => by cases h; exact ⟨s, rfl, rfl⟩)
        (.inr (.inl rfl)) rfl
    · refine .of_move (fun _ => rfl) rfl rfl rfl rfl ?_ (.inr (.inl ?_)) ?_
      · cases ht : c.task with
        | pumping url s | writing url s finished => exact fun _ h => by cases h; exact ⟨s, rfl, rfl⟩
        | closing s finished => exact fun _ h => by cases h; exact ⟨s, rfl, rfl⟩
        | _ => exact fun _ h => by cases h
      · exact (Task.isPumping_receive _ _).symm
      · show (c.task.milestone? (Task.receive _ c.task) != some .opened) = true
        rw [Task.milestone?_receive]
        rfl
    · exact .of_task_eq rfl rfl rfl rfl
  | turn => exact absurd rfl he
  | pass ms => exact .of_task_eq rfl rfl rfl rfl

/-- What does not send leaves the frames alone, unless it is a turn. -/
theorem frames_act (now : Nat) (c : Connection) {e : Event} (hs : e.sending? c = none) :
    Opened c (e.act now c) ∨ Wrote c (e.act now c) ∨ Idle c (e.act now c) := by
  cases e with
  | turn =>
    simp only [Event.act]
    cases ht : c.turn now with
    | none => exact .inr (.inr (.of_task_eq rfl rfl rfl rfl))
    | some c' => exact (turn_eq_some ht).frames
  | send frame => cases hs
  | _ => exact .inr (.inr (idle_act now c (by rintro (_ | _)) hs))

namespace Run

/-- Every step keeps what was accepted and what was handed over together. -/
theorem carried_step {ss : List Sending} {r : Run} (e : Event)
    (ha : Agrees r.history r.connection) (hc : Carried ss r.history r.connection) :
    Carried (ss ++ (e.sending? r.connection).toList) (r.step e).history (r.step e).connection := by
  have hd : r.connection.disposed = true → (e.act r.now r.connection).disposed = true := by
    intro hd
    rw [disposed_act, hd]
    rfl
  cases hs : e.sending? r.connection with
  | some s =>
    cases e with
    | send frame =>
      cases hs
      have hn : (r.step (.send frame)).history = r.history := by
        simp only [step, Event.act, Connection.send]
        split <;> exact History.note_self _ _ _
      rw [hn]
      exact hc.send ha frame
    | _ => cases hs
  | none =>
    rw [Option.toList_none, List.append_nil]
    rcases frames_act r.now r.connection hs with ho | hw | hi
    · exact hc.socketOpened ho r.now
    · exact hc.wrote hw r.now
    · exact hc.idle hi hd r.now

theorem carried_after (policy : ReconnectPolicy) (es : List Event) :
    Carried ((start policy).sendings es) ((start policy).after es).history
      ((start policy).after es).connection := by
  refine after_induction (fun es r => Carried ((start policy).sendings es) r.history r.connection)
    ⟨fun s h => absurd h List.not_mem_nil, fun k => ?_, fun h => absurd rfl h,
      fun k h => (by cases h), rfl⟩ ?_ es
  · show [] = [] ++ if k = 0 then [] else []
    rw [ite_self, List.append_nil]
  · intro es e hc
    rw [sendings_append]
    show Carried (_ ++ ((e.sending? ((start policy).after es).connection).toList ++ [])) _ _
    rw [List.append_nil]
    exact carried_step e (agrees_after policy es) hc

/-! ## Sockets that are lost -/

/-- Socket `k` was open, is not the current one, and left nothing in the queue. -/
structure Past (k : Nat) (c : Connection) : Prop where
  opened : k ≤ c.opened
  current : c.current? ≠ some k
  queue : k = c.opened → c.queue = []

theorem Past.of_not_disposed {ss : List Sending} {h : History} {c : Connection} {k : Nat}
    (hc : Carried ss h c) (hd : c.disposed = false) (ho : k ≤ c.opened)
    (hn : c.current? ≠ some k) : Past k c := by
  refine ⟨ho, hn, fun hk => hc.queue_eq_nil (Bool.eq_false_iff.2 fun hp => hn ?_) hd⟩
  obtain ⟨s, hs⟩ := Task.socket?_of_isPumping hp
  have hs' : c.current? = some s.number := by rw [current?, hs]; rfl
  rw [hs', hc.current _ hs', hk]

/-- What is past stays past. -/
theorem past_step {ss : List Sending} {k : Nat} {r : Run} (e : Event)
    (ha : Agrees r.history r.connection) (hc : Carried ss r.history r.connection)
    (hp : Past k r.connection) : Past k (r.step e).connection := by
  cases hs : e.sending? r.connection with
  | some s =>
    cases e with
    | send frame =>
      show Past k (r.connection.send frame).1
      cases hx : (r.connection.send frame).2 with
      | false => rwa [send_of_refused hx]
      | true =>
        obtain ⟨hd, hv⟩ := (send_accepts_iff frame _).1 hx
        rw [send_of_accepted hx]
        refine ⟨hp.opened, hp.current, fun hk => absurd ?_ hp.current⟩
        rw [hc.current_of_connected ha hd hv, hk]
    | _ => cases hs
  | none =>
    have hk := hp.opened
    rcases frames_act r.now r.connection hs with ho | hw | hi
    · have hn : (r.step e).connection.opened = r.connection.opened + 1 := ho.opened
      have hc' : (r.step e).connection.current? = some (r.connection.opened + 1) := ho.current
      refine ⟨by omega, fun h => ?_, fun h => by omega⟩
      have h := Option.some.inj (hc'.symm.trans h)
      omega
    · obtain ⟨s, frame, t, -, hq, -⟩ := hw.write
      have hn : (r.step e).connection.opened = r.connection.opened := hw.opened
      have hc' : (r.step e).connection.current? = r.connection.current? := hw.current
      refine ⟨by omega, hc' ▸ hp.current, fun h => ?_⟩
      rw [hp.queue (h.trans hn)] at hq
      cases hq
    · have hn : (r.step e).connection.opened = r.connection.opened := hi.opened
      have hq : (r.step e).connection.queue = r.connection.queue := hi.queue
      exact ⟨by omega, fun h => hp.current (hi.current k h), fun h => hq.trans (hp.queue (h.trans hn))⟩

theorem past_after {policy : ReconnectPolicy} {es : List Event} {k : Nat}
    (hp : Past k ((start policy).after es).connection) (more : List Event) :
    Past k ((start policy).after (es ++ more)).connection := by
  induction more using List.reverseRecOn with
  | nil => rwa [List.append_nil]
  | append_singleton more e ih =>
    rw [← List.append_assoc, after_concat]
    exact past_step e (agrees_after policy _) (carried_after policy _) ih

/-- All that was accepted for a socket that is past was handed to it. -/
theorem Past.handed_eq {ss : List Sending} {h : History} {c : Connection} {k : Nat}
    (hp : Past k c) (hc : Carried ss h c) : c.handed k = acceptedFor k ss := by
  rw [hc.frames]
  split
  · next hk => rw [hp.queue hk, List.append_nil]
  · rw [List.append_nil]

/-! ## The queue drains -/

/-- Turns and finished writes send nothing. -/
theorem sendings_eq_nil {more : List Event} (hm : ∀ e ∈ more, e = .turn ∨ e = .news .written)
    (r : Run) : r.sendings more = [] := by
  induction more generalizing r with
  | nil => rfl
  | cons e more ih =>
    have he : e.sending? r.connection = none := by
      rcases hm e List.mem_cons_self with rfl | rfl <;> rfl
    rw [sendings, he, ih fun e' he' => hm e' (List.mem_cons_of_mem _ he')]
    rfl

/-- With every write that ends, one more frame is handed over. -/
theorem exists_drained_of_pumping {n : Nat} {url : String} {s : OpenSocket} {r : Run}
    (hd : r.connection.disposed = false) (ht : r.connection.task = .pumping url s)
    (hn : r.connection.queue.length = n) :
    ∃ more : List Event, (∀ e ∈ more, e = .turn ∨ e = .news .written) ∧
      (r.after more).connection.queue = [] := by
  induction n generalizing r with
  | zero => exact ⟨[], fun e he => absurd he List.not_mem_nil, List.length_eq_zero_iff.1 hn⟩
  | succ n ih =>
    obtain ⟨frame, queue, hq⟩ := List.exists_cons_of_length_eq_add_one hn
    -- the frame is taken, its write ends, and the task goes on with the rest of the queue
    let block : List Event := [.turn, .news .written, .turn]
    have h : (r.after block).connection.disposed = false ∧
        (r.after block).connection.task = .pumping url s ∧
        (r.after block).connection.queue = queue := by
      simp [block, step, Event.act, turn, pump, notice, proceed, call, ht, hd, hq]
    rw [hq, List.length_cons, Nat.succ_inj] at hn
    obtain ⟨more, hm, hmore⟩ := ih h.1 h.2.1 (by rw [h.2.2, hn])
    refine ⟨block ++ more, fun e he => ?_, ?_⟩
    · rcases List.mem_append.1 he with he | he
      · simpa [block, or_comm, or_assoc] using he
      · exact hm e he
    · rw [after_append]
      exact hmore

/-- Until the connection is torn down, all frames in the queue can still be handed over. -/
theorem exists_drained {ss : List Sending} {r : Run}
    (hc : Carried ss r.history r.connection) (hd : r.connection.disposed = false)
    (hl : r.connection.task.isLeaving ≠ true) :
    ∃ more : List Event, (∀ e ∈ more, e = .turn ∨ e = .news .written) ∧
      (r.after more).connection.queue = [] := by
  cases ht : r.connection.task with
  | pumping url s => exact exists_drained_of_pumping hd ht rfl
  | writing url s finished =>
    have h : (r.after [.news .written, .turn]).connection.disposed = false ∧
        (r.after [.news .written, .turn]).connection.task = .pumping url s := by
      simp [step, Event.act, turn, notice, proceed, ht, hd]
    obtain ⟨more, hm, hmore⟩ := exists_drained_of_pumping h.1 h.2 rfl
    refine ⟨[.news .written, .turn] ++ more, fun e he => ?_, ?_⟩
    · rcases List.mem_append.1 he with he | he
      · simpa [or_comm] using he
      · exact hm e he
    · rw [after_append]
      exact hmore
  | closing => exact absurd (by rw [ht]; rfl) hl
  | _ =>
    exact ⟨[], fun e he => absurd he List.not_mem_nil, hc.queue_eq_nil (by rw [ht]; rfl) hd⟩

/-- How the frames of a run stand to its sockets, where `ss` became of the requests to send one. -/
structure FramesStay (ss : List Sending) (r : Run) : Prop where
  /-- A frame is accepted just while the connection is connected and not torn down. -/
  accepts : ∀ frame, (r.connection.send frame).2 = true ↔
    r.connection.disposed = false ∧ r.connection.state.value = .connected
  /-- The current socket is the one that was opened last. -/
  current : r.connection.disposed = false → r.connection.state.value = .connected →
    r.connection.current? = some r.connection.opened
  opened : r.connection.opened = r.history.countP (·.2 = .opened)
  meant : ∀ s ∈ ss, s.accepted = true → ∃ k ≤ r.connection.opened, s.socket = some k
  /-- The frames that are handed to a socket are those that were accepted while it was the current
  one, each once and in that order. -/
  handed : ∀ k, r.connection.handed k <+: acceptedFor k ss
  /-- Until the connection is torn down, only those are missing that wait in the queue of the current
  socket. -/
  missing : r.connection.disposed = false → ∀ k, acceptedFor k ss =
    r.connection.handed k ++ if r.connection.current? = some k then r.connection.queue else []
  /-- Of a socket that is lost none is missing and none is added later. -/
  lost : r.connection.disposed = false → ∀ k ≤ r.connection.opened,
    r.connection.current? ≠ some k → ∀ more,
      (r.after more).connection.handed k = acceptedFor k (ss ++ r.sendings more)
  /-- No frame waits for more than turns of the task and ends of writes. -/
  drained : r.connection.disposed = false →
    ∃ more : List Event, (∀ e ∈ more, e = .turn ∨ e = .news .written) ∧
      ∀ k, (r.after more).connection.handed k = acceptedFor k ss
  /-- A frame that was never accepted is handed to no socket. -/
  refused : ∀ frame, (∀ s ∈ ss, s.frame = frame → s.accepted = false) →
    ∀ k, frame ∉ r.connection.handed k

/-- Whatever the owner, the network and the task of a connection do, and in whatever order: its
frames stay with the sockets that they are meant for. -/
theorem frames_stay_with_their_socket (policy : ReconnectPolicy) (es : List Event) :
    FramesStay ((start policy).sendings es) ((start policy).after es) := by
  have ha := agrees_after policy es
  have hc := carried_after policy es
  have hpre : ∀ k, ((start policy).after es).connection.handed k <+:
      acceptedFor k ((start policy).sendings es) := fun k => ⟨_, (hc.frames k).symm⟩
  refine {
    accepts := fun frame => send_accepts_iff frame _
    current := hc.current_of_connected ha
    opened := hc.opened
    meant := hc.meant
    handed := hpre
    missing := fun hd k => ?_, lost := fun hd k hk hn more => ?_, drained := fun hd => ?_
    refused := fun frame hf k hm => ?_ }
  · rw [hc.frames k]
    congr 1
    by_cases hk : ((start policy).after es).connection.current? = some k
    · rw [if_pos hk, if_pos (hc.current k hk)]
    · rw [if_neg hk]
      split
      · next he => exact (Past.of_not_disposed hc hd (Nat.le_of_eq he) hk).queue he
      · rfl
  · have hp := past_after (Past.of_not_disposed hc hd hk hn) more
    rw [← sendings_append, ← hp.handed_eq (carried_after policy _), after_append]
  · obtain ⟨more, hm, hq⟩ := exists_drained hc hd fun h =>
      Bool.false_ne_true (hd.symm.trans (ha.leaving h))
    refine ⟨more, hm, fun k => ?_⟩
    have hf := (carried_after policy (es ++ more)).frames k
    rw [sendings_append, sendings_eq_nil hm, List.append_nil, after_append, hq, ite_self,
      List.append_nil] at hf
    exact hf.symm
  · obtain ⟨s, hs, he⟩ := List.mem_filterMap.1 ((hpre k).mem hm)
    unfold Sending.frameFor? at he
    split at he
    · next h =>
      cases he
      exact Bool.false_ne_true ((hf s hs rfl).symm.trans h.1)
    · cases he

/-- A frame that waits when its socket is lost is handed over first; one that comes while
there is no socket is refused, and the next socket gets only what comes after it was opened. -/
example :
    let es : List Event := [.connect "ws://localhost", .turn, .news (.answered none), .turn,
      .send "a", .send "b", .turn, .news (.event .closed), .news .written, .turn, .turn,
      .news .written, .turn, .turn, .send "c", .pass 1000, .turn, .news (.answered none), .turn,
      .send "d", .turn]
    let r := (start .standard).after es
    (start .standard).sendings es =
      [⟨"a", some 1, true⟩, ⟨"b", some 1, true⟩, ⟨"c", none, false⟩, ⟨"d", some 2, true⟩] ∧
    r.connection.handed 1 = ["a", "b"] ∧ r.connection.handed 2 = ["d"] := by
  decide

end Run

end BackendMonitor.Connection
