import BackendMonitor.Proofs.Connection.Frames
import BackendMonitor.Proofs.Connection.Stream

/-!
# Messages of a connection

Messages come from one socket after the other, and are numbered over all of them.

* `Run.arrivals`: the events that arrived at a socket while it was the current one;
* `delivered`: the messages that observers were told of;
* `Hearing`: what a step does to the two (`Run.hearing_step`);
* `Heard`: what they have to do with each other, which every step keeps;
* `Run.HearsStreams`: how the messages stand to the streams of the sockets, and
  `Run.messages_come_from_streams`: so they do where the events are those of a stream for each
  socket.
-/

namespace BackendMonitor.Connection

/-! ## Events that arrive, and messages that are delivered -/

/-- The number of the socket at which an event of a socket arrives, and that event. -/
def Event.arrival? (c : Connection) : Event → Option (Nat × SocketEvent)
  | .news (.event e) => c.current?.map (·, e)
  | _ => none

/-- All events of sockets that arrive in the course of some events, in order. -/
def Run.arrivals (r : Run) : List Event → List (Nat × SocketEvent)
  | [] => []
  | e :: es => (e.arrival? r.connection).toList ++ (r.step e).arrivals es

theorem Run.arrivals_append (r : Run) (es fs : List Event) :
    r.arrivals (es ++ fs) = r.arrivals es ++ (r.after es).arrivals fs := by
  induction es generalizing r with
  | nil => rfl
  | cons e es ih =>
    show (e.arrival? r.connection).toList ++ (r.step e).arrivals (es ++ fs) = _
    rw [ih, ← List.append_assoc]
    rfl

/-- What arrived at socket `k`, in order. -/
def arrivedAt (k : Nat) (as : List (Nat × SocketEvent)) : List SocketEvent :=
  as.filterMap fun a => if a.1 = k then some a.2 else none

theorem arrivedAt_append (k : Nat) (as bs : List (Nat × SocketEvent)) :
    arrivedAt k (as ++ bs) = arrivedAt k as ++ arrivedAt k bs :=
  List.filterMap_append

theorem arrivedAt_map_self (k : Nat) (es : List SocketEvent) :
    arrivedAt k (es.map (k, ·)) = es := by
  have hf : ((fun a : Nat × SocketEvent => if a.1 = k then some a.2 else none) ∘ (k, ·)) = some :=
    funext fun _ => if_pos rfl
  rw [arrivedAt, List.filterMap_map, hf, List.filterMap_some]

theorem arrivedAt_map_of_ne {j k : Nat} (h : j ≠ k) (es : List SocketEvent) :
    arrivedAt k (es.map (j, ·)) = [] := by
  refine List.filterMap_eq_nil_iff.2 fun a ha => ?_
  obtain ⟨e, -, rfl⟩ := List.mem_map.1 ha
  exact if_neg h

/-- The messages among what arrived at the first sockets, `n` of them, up to the end of each. -/
def heardUpTo (n : Nat) (as : List (Nat × SocketEvent)) : List String :=
  (List.range n).flatMap fun i => heard (arrivedAt (i + 1) as)

theorem heardUpTo_succ (n : Nat) (as : List (Nat × SocketEvent)) :
    heardUpTo (n + 1) as = heardUpTo n as ++ heard (arrivedAt (n + 1) as) := by
  rw [heardUpTo, List.range_succ, List.flatMap_append, List.flatMap_singleton, heardUpTo]

theorem heardUpTo_congr {n : Nat} {as bs : List (Nat × SocketEvent)}
    (h : ∀ k ≤ n, arrivedAt k as = arrivedAt k bs) : heardUpTo n as = heardUpTo n bs := by
  induction n with
  | zero => rfl
  | succ n ih =>
    rw [heardUpTo_succ, heardUpTo_succ, ih fun k hk => h k (Nat.le_succ_of_le hk),
      h (n + 1) (Nat.le_refl _)]

/-- The messages that observers were told of, oldest first. -/
def delivered (c : Connection) : List String :=
  c.latest.published.reverse.filterMap (·.map (·.payload))

/-- Messages with their numbers, which start at one. -/
def numbered (ps : List String) : List (Option InboundMessage) :=
  ps.mapIdx fun i payload => some ⟨i + 1, payload⟩

theorem numbered_concat (ps : List String) (payload : String) :
    numbered (ps ++ [payload]) = numbered ps ++ [some ⟨ps.length + 1, payload⟩] :=
  List.mapIdx_concat

/-! ## Steps -/

/-- What a step does to the socket of the task, and to the messages that observers were told of; and
what arrives at the socket. -/
inductive Hearing (c c' : Connection) : Option (Nat × SocketEvent) → Prop where
  | opened (hs : c.task.socket? = none)
      (hs' : c'.task.socket? = some { number := c.opened + 1 }) (ho : c'.opened = c.opened + 1)
      (hl : c'.latest = c.latest) (hr : c'.received = c.received) : Hearing c c' none
  | arrived {s : OpenSocket} (e : SocketEvent) (hs : c.task.socket? = some s)
      (hs' : c'.task.socket? = some { s with inbox := s.inbox ++ [e] })
      (ho : c'.opened = c.opened) (hl : c'.latest = c.latest) (hr : c'.received = c.received) :
      Hearing c c' (some (s.number, e))
  | message {s : OpenSocket} {payload : String} {inbox : List SocketEvent}
      (hs : c.task.socket? = some s) (hi : s.inbox = .message payload :: inbox)
      (hs' : c'.task.socket? = some { s with inbox := inbox }) (ho : c'.opened = c.opened)
      (hl : c'.latest = c.latest.publish (some ⟨c.received + 1, payload⟩))
      (hr : c'.received = c.received + 1) : Hearing c c' none
  | error {s : OpenSocket} {reason : String} {inbox : List SocketEvent}
      (hs : c.task.socket? = some s) (hi : s.inbox = .error reason :: inbox)
      (hs' : c'.task.socket? = some { s with inbox := inbox }) (ho : c'.opened = c.opened)
      (hl : c'.latest = c.latest) (hr : c'.received = c.received) : Hearing c c' none
  | lost {s : OpenSocket} {inbox : List SocketEvent} (hs : c.task.socket? = some s)
      (hi : s.inbox = .closed :: inbox) (hs' : c'.task.socket? = none)
      (ho : c'.opened = c.opened) (hl : c'.latest = c.latest) (hr : c'.received = c.received) :
      Hearing c c' none
  | apart (hs' : c'.task.socket? = c.task.socket?) (ho : c'.opened = c.opened)
      (hl : c'.latest = c.latest) (hr : c'.received = c.received) : Hearing c c' none

/-- What concerns the state leaves everything else alone. -/
theorem become_eq (next : ConnectionState) (c : Connection) :
    ∃ state ignored, c.become next = { c with state := state, ignored := ignored } := by
  unfold become
  split
  · exact ⟨c.state, c.ignored, rfl⟩
  · split
    · exact ⟨c.state, _, rfl⟩
    · exact ⟨_, c.ignored, rfl⟩

theorem latest_become (next : ConnectionState) (c : Connection) :
    (c.become next).latest = c.latest := by
  obtain ⟨state, ignored, h⟩ := become_eq next c
  rw [h]

theorem received_become (next : ConnectionState) (c : Connection) :
    (c.become next).received = c.received := by
  obtain ⟨state, ignored, h⟩ := become_eq next c
  rw [h]

/-- A message that comes is counted, and observers are told of it. -/
theorem deliver_eq {c : Connection} (hd : c.disposed = false) (payload : String) :
    c.deliver payload =
      { c with
        received := c.received + 1
        latest := c.latest.publish (some ⟨c.received + 1, payload⟩) } := by
  unfold deliver
  simp only
  rw [if_neg (by simp [hd])]

/-- What a turn takes from the socket, as long as the connection is not torn down. -/
theorem Turn.hearing {now : Nat} {c c' : Connection} (h : Turn now c c')
    (hd : c.disposed = false) (hl : c.task.isLeaving ≠ true) : Hearing c c' none := by
  have lost : ∀ url, (c.onLost now url).opened = c.opened ∧ (c.onLost now url).latest = c.latest ∧
      (c.onLost now url).received = c.received := fun url =>
    ⟨opened_become _ _, latest_become _ _, received_become _ _⟩
  cases h with
  | @opened url deadline _ ht =>
    exact .opened (by rw [ht]; rfl) rfl (opened_become _ _) (latest_become _ _)
      (received_become _ _)
  | @message url s payload inbox _ ht _ hi =>
    rw [deliver_eq hd]
    exact .message (by rw [ht]; rfl) hi rfl rfl rfl rfl
  | @error url s reason inbox _ ht _ hi =>
    exact .error (by rw [ht]; rfl) hi rfl rfl rfl rfl
  | @lost url s inbox _ ht _ hi =>
    obtain ⟨ho, hlt, hr⟩ := lost url
    exact .lost (by rw [ht]; rfl) hi rfl ho hlt hr
  | @refused url deadline f _ ht | @timedOut url deadline _ ht _ =>
    obtain ⟨ho, hlt, hr⟩ := lost url
    exact .apart (by rw [ht]; rfl) ho hlt hr
  | start _ ht | again _ ht => exact .apart (by rw [ht]; rfl) rfl rfl rfl
  | @write url s frame queue _ ht => exact .apart (by rw [ht]; rfl) rfl rfl rfl
  | written ht => exact .apart (by rw [ht]; rfl) rfl rfl rfl
  | stop hd' | close hd' => cases hd.symm.trans hd'
  | closed ht => exact absurd (by rw [ht]; rfl) hl

theorem Task.socket?_receive (e : SocketEvent) (t : Task) :
    (Task.receive e t).socket? = t.socket?.map fun s => { s with inbox := s.inbox ++ [e] } := by
  cases t <;> rfl

theorem hearing_notice (n : News) (c : Connection) :
    Hearing c (c.notice n) (Event.arrival? c (.news n)) := by
  cases n with
  | event e =>
    cases hs : c.task.socket? with
    | none =>
      have ha : Event.arrival? c (.news (.event e)) = none := by
        rw [Event.arrival?, current?, hs]; rfl
      rw [ha]
      refine .apart ?_ rfl rfl rfl
      show (Task.receive e c.task).socket? = _
      rw [Task.socket?_receive, hs]
      rfl
    | some s =>
      have ha : Event.arrival? c (.news (.event e)) = some (s.number, e) := by
        rw [Event.arrival?, current?, hs]; rfl
      rw [ha]
      refine .arrived e hs ?_ rfl rfl rfl
      show (Task.receive e c.task).socket? = _
      rw [Task.socket?_receive, hs]
      rfl
  | answered f | written | closed =>
    show Hearing c _ none
    unfold notice
    split
    · next ht => exact .apart (by rw [ht]; rfl) rfl rfl rfl
    · next ht => exact .apart (by rw [ht]; rfl) rfl rfl rfl
    · next ht => exact .apart (by rw [ht]; rfl) rfl rfl rfl
    · next hn => cases hn
    · exact .apart rfl rfl rfl rfl

theorem Run.hearing_step {r : Run} (ha : Agrees r.history r.connection) {e : Event}
    (hd : (r.step e).connection.disposed = false) :
    Hearing r.connection (r.step e).connection (e.arrival? r.connection) := by
  have hor : (r.connection.disposed || e.isTeardown) = false :=
    (disposed_act r.now r.connection e).symm.trans hd
  obtain ⟨hd₀, he⟩ := Bool.or_eq_false_iff.1 hor
  cases e with
  | connect url =>
    show Hearing _ (r.connection.connect url) none
    unfold connect
    rw [if_neg (by simp [hd₀])]
    split
    · next ht => exact .apart (by rw [ht]; rfl) rfl rfl rfl
    · exact .apart rfl rfl rfl rfl
  | send frame =>
    show Hearing _ (r.connection.send frame).1 none
    unfold send
    split <;> exact .apart rfl rfl rfl rfl
  | dispose | drop => cases he
  | news n => exact hearing_notice n _
  | turn =>
    show Hearing _ ((r.connection.turn r.now).getD r.connection) none
    cases ht : r.connection.turn r.now with
    | none => exact .apart rfl rfl rfl rfl
    | some c' =>
      exact (turn_eq_some ht).hearing hd₀ fun hl => by cases hd₀.symm.trans (ha.leaving hl)
  | pass ms => exact .apart rfl rfl rfl rfl

/-! ## What was heard so far -/

/-- How the events that arrived belong to the messages that were delivered. -/
structure Heard (as : List (Nat × SocketEvent)) (c : Connection) : Prop where
  /-- Nothing arrives at a socket that is not open yet. -/
  later : ∀ k, c.opened < k → arrivedAt k as = []
  /-- Of what arrived at the current socket, all that is not in its inbox was heard. -/
  current : ∀ s, c.task.socket? = some s → ∃ taken, arrivedAt c.opened as = taken ++ s.inbox ∧
    SocketEvent.closed ∉ taken ∧ 0 < c.opened ∧
    c.delivered = heardUpTo (c.opened - 1) as ++ heard taken
  between : c.task.socket? = none → c.delivered = heardUpTo c.opened as
  /-- A socket is given up only when it is closed. -/
  past : ∀ k, 0 < k → k ≤ c.opened → c.current? ≠ some k → SocketEvent.closed ∈ arrivedAt k as
  published : c.latest.published.reverse = numbered c.delivered
  received : c.received = c.delivered.length
  value : c.latest.value = c.delivered.getLast?.map (⟨c.delivered.length, ·⟩)

section Heard

variable {as : List (Nat × SocketEvent)} {c c' : Connection}

theorem delivered_congr (hl : c'.latest = c.latest) : c'.delivered = c.delivered := by
  rw [delivered, hl, delivered]

theorem delivered_publish {n : Nat} {payload : String}
    (hl : c'.latest = c.latest.publish (some ⟨n, payload⟩)) :
    c'.delivered = c.delivered ++ [payload] := by
  simp [delivered, hl]

/-- A step at which observers are told of nothing. -/
theorem Heard.quiet {bs : List (Nat × SocketEvent)} (h : Heard as c)
    (hl : c'.latest = c.latest) (hr : c'.received = c.received)
    (later : ∀ k, c'.opened < k → arrivedAt k bs = [])
    (current : ∀ s, c'.task.socket? = some s → ∃ taken, arrivedAt c'.opened bs = taken ++ s.inbox ∧
      SocketEvent.closed ∉ taken ∧ 0 < c'.opened ∧
      c.delivered = heardUpTo (c'.opened - 1) bs ++ heard taken)
    (between : c'.task.socket? = none → c.delivered = heardUpTo c'.opened bs)
    (past : ∀ k, 0 < k → k ≤ c'.opened → c'.current? ≠ some k →
      SocketEvent.closed ∈ arrivedAt k bs) : Heard bs c' := by
  have hd : c'.delivered = c.delivered := delivered_congr hl
  refine ⟨later, fun s hs => ?_, fun hs => ?_, past, ?_, ?_, ?_⟩
  · rw [hd]; exact current s hs
  · rw [hd]; exact between hs
  · rw [hd, hl]; exact h.published
  · rw [hd, hr]; exact h.received
  · rw [hd, hl]; exact h.value

theorem current?_of_socket? {s : OpenSocket} (hs : c.task.socket? = some s) :
    c.current? = some s.number := by
  rw [current?, hs]
  rfl

theorem Heard.opened (h : Heard as c) (hs : c.task.socket? = none)
    (hs' : c'.task.socket? = some { number := c.opened + 1 }) (ho : c'.opened = c.opened + 1)
    (hl : c'.latest = c.latest) (hr : c'.received = c.received) : Heard as c' := by
  refine h.quiet hl hr (fun k hk => h.later k (by omega)) (fun s hs₁ => ?_) (fun hs₁ => ?_)
    fun k hk hk' hn => ?_
  · cases hs'.symm.trans hs₁
    refine ⟨[], ?_, List.not_mem_nil, by omega, ?_⟩
    · rw [ho]
      exact h.later _ (Nat.lt_succ_self _)
    · rw [ho]
      exact (h.between hs).trans (List.append_nil _).symm
  · cases hs'.symm.trans hs₁
  · have hc : c'.current? = some (c.opened + 1) := current?_of_socket? hs'
    have hne : k ≠ c.opened + 1 := fun he => hn (he ▸ hc)
    refine h.past k hk (by omega) ?_
    rw [current?, hs]
    exact fun hx => by cases hx

theorem Heard.arrived (h : Heard as c) {s : OpenSocket} {e : SocketEvent}
    (hk : s.number = c.opened) (hs : c.task.socket? = some s)
    (hs' : c'.task.socket? = some { s with inbox := s.inbox ++ [e] })
    (ho : c'.opened = c.opened) (hl : c'.latest = c.latest) (hr : c'.received = c.received) :
    Heard (as ++ [(s.number, e)]) c' := by
  have here : arrivedAt c.opened (as ++ [(s.number, e)]) = arrivedAt c.opened as ++ [e] := by
    rw [arrivedAt_append, ← hk]
    exact congrArg _ (arrivedAt_map_self _ [e])
  have there : ∀ k, k ≠ c.opened → arrivedAt k (as ++ [(s.number, e)]) = arrivedAt k as := by
    intro k hne
    have hn : s.number ≠ k := fun he => hne (he.symm.trans hk)
    rw [arrivedAt_append, show [(s.number, e)] = [e].map (s.number, ·) from rfl,
      arrivedAt_map_of_ne hn, List.append_nil]
  have hc : c'.current? = some s.number := by rw [current?_of_socket? hs']
  refine h.quiet hl hr (fun k hlt => ?_) (fun s₁ hs₁ => ?_) (fun hs₁ => ?_)
    fun k hpos hle hn => ?_
  · rw [there k (by omega)]
    exact h.later k (by omega)
  · cases hs'.symm.trans hs₁
    obtain ⟨taken, ht, hn, hpos, hd⟩ := h.current s hs
    refine ⟨taken, ?_, hn, by omega, ?_⟩
    · rw [ho, here, ht, List.append_assoc]
    · rw [ho, heardUpTo_congr fun k hle => there k (by omega)]
      exact hd
  · cases hs'.symm.trans hs₁
  · have hne : k ≠ c.opened := fun he => hn (by rw [hc, hk, he])
    rw [there k hne]
    refine h.past k hpos (by omega) ?_
    rw [current?_of_socket? hs, hk]
    exact fun hx => hne (Option.some.inj hx).symm

/-- The first event in the inbox is taken, and was no message. -/
theorem Heard.error (h : Heard as c) {s : OpenSocket} {reason : String}
    {inbox : List SocketEvent} (hs : c.task.socket? = some s)
    (hi : s.inbox = .error reason :: inbox) (hs' : c'.task.socket? = some { s with inbox := inbox })
    (ho : c'.opened = c.opened) (hl : c'.latest = c.latest) (hr : c'.received = c.received) :
    Heard as c' := by
  have hc : c'.current? = c.current? :=
    (current?_of_socket? hs').trans (current?_of_socket? hs).symm
  refine h.quiet hl hr (fun k hlt => h.later k (ho ▸ hlt)) (fun s₁ hs₁ => ?_) (fun hs₁ => ?_)
    fun k hpos hle hn => h.past k hpos (ho ▸ hle) (hc ▸ hn)
  · cases hs'.symm.trans hs₁
    obtain ⟨taken, ht, hn, hpos, hd⟩ := h.current s hs
    refine ⟨taken ++ [.error reason], ?_, ?_, by omega, ?_⟩
    · rw [ho, ht, hi, List.append_assoc]
      rfl
    · simpa using hn
    · rw [ho, heard_append_of_notMem hn, hd]
      exact congrArg _ (List.append_nil _).symm
  · cases hs'.symm.trans hs₁

theorem Heard.message (h : Heard as c) {s : OpenSocket} {payload : String}
    {inbox : List SocketEvent} (hs : c.task.socket? = some s)
    (hi : s.inbox = .message payload :: inbox)
    (hs' : c'.task.socket? = some { s with inbox := inbox }) (ho : c'.opened = c.opened)
    (hl : c'.latest = c.latest.publish (some ⟨c.received + 1, payload⟩))
    (hr : c'.received = c.received + 1) : Heard as c' := by
  have hc : c'.current? = c.current? :=
    (current?_of_socket? hs').trans (current?_of_socket? hs).symm
  have hd : c'.delivered = c.delivered ++ [payload] := delivered_publish hl
  have hn : c'.delivered.length = c.received + 1 := by rw [hd, List.length_append, h.received]; rfl
  refine ⟨fun k hlt => h.later k (ho ▸ hlt), fun s₁ hs₁ => ?_, fun hs₁ => ?_,
    fun k hpos hle hn => h.past k hpos (ho ▸ hle) (hc ▸ hn), ?_, hr.trans hn.symm, ?_⟩
  · cases hs'.symm.trans hs₁
    obtain ⟨taken, ht, hn, hpos, hd'⟩ := h.current s hs
    refine ⟨taken ++ [.message payload], ?_, ?_, by omega, ?_⟩
    · rw [ho, ht, hi, List.append_assoc]
      rfl
    · simpa using hn
    · rw [hd, hd', ho, heard_append_of_notMem hn, List.append_assoc]
      rfl
  · cases hs'.symm.trans hs₁
  · rw [hl, Watched.published_publish, List.reverse_cons, h.published, hd, numbered_concat,
      h.received]
  · rw [hl, Watched.value_publish, hn, hd, List.getLast?_concat]
    rfl

theorem Heard.lost (h : Heard as c) {s : OpenSocket} {inbox : List SocketEvent}
    (hk : s.number = c.opened) (hs : c.task.socket? = some s) (hi : s.inbox = .closed :: inbox)
    (hs' : c'.task.socket? = none) (ho : c'.opened = c.opened) (hl : c'.latest = c.latest)
    (hr : c'.received = c.received) : Heard as c' := by
  obtain ⟨taken, ht, hn, hpos, hd⟩ := h.current s hs
  refine h.quiet hl hr (fun k hlt => h.later k (ho ▸ hlt)) (fun s₁ hs₁ => ?_) (fun _ => ?_)
    fun k hpos' hle _ => ?_
  · cases hs'.symm.trans hs₁
  · have hsucc : c.opened = c.opened - 1 + 1 := by omega
    rw [ho, hd, hsucc, heardUpTo_succ, Nat.add_sub_cancel, ← hsucc, ht, hi,
      heard_append_of_notMem hn]
    exact congrArg _ (List.append_nil _).symm
  · by_cases he : k = c.opened
    · rw [he, ht, hi]
      exact List.mem_append_right _ List.mem_cons_self
    · refine h.past k hpos' (ho ▸ hle) ?_
      rw [current?_of_socket? hs, hk]
      exact fun hx => he (Option.some.inj hx).symm

/-- Every step keeps what was heard and what was delivered together. -/
theorem Heard.hearing (h : Heard as c) {a : Option (Nat × SocketEvent)}
    (hk : ∀ k, c.current? = some k → k = c.opened) (hh : Hearing c c' a) :
    Heard (as ++ a.toList) c' := by
  have number : ∀ {s : OpenSocket}, c.task.socket? = some s → s.number = c.opened := fun hs =>
    hk _ (current?_of_socket? hs)
  cases hh with
  | opened hs hs' ho hl hr =>
    rw [Option.toList_none, List.append_nil]
    exact h.opened hs hs' ho hl hr
  | arrived e hs hs' ho hl hr => exact h.arrived (number hs) hs hs' ho hl hr
  | message hs hi hs' ho hl hr =>
    rw [Option.toList_none, List.append_nil]
    exact h.message hs hi hs' ho hl hr
  | error hs hi hs' ho hl hr =>
    rw [Option.toList_none, List.append_nil]
    exact h.error hs hi hs' ho hl hr
  | lost hs hi hs' ho hl hr =>
    rw [Option.toList_none, List.append_nil]
    exact h.lost (number hs) hs hi hs' ho hl hr
  | apart hs' ho hl hr =>
    rw [Option.toList_none, List.append_nil]
    have hc : c'.current? = c.current? := by rw [current?, hs', current?]
    refine h.quiet hl hr ?_ ?_ ?_ ?_
    · rw [ho]; exact h.later
    · rw [ho, hs']; exact h.current
    · rw [ho, hs']; exact h.between
    · rw [ho, hc]; exact h.past

end Heard

namespace Run

theorem heard_after (policy : ReconnectPolicy) (es : List Event) :
    ((start policy).after es).connection.disposed = false →
      Heard ((start policy).arrivals es) ((start policy).after es).connection := by
  refine after_induction (fun es r => r.connection.disposed = false →
    Heard ((start policy).arrivals es) r.connection) (fun _ => ?_) (fun es e ih hd => ?_) es
  · exact ⟨fun _ _ => rfl, fun _ hs => (by cases hs), fun _ => rfl,
      fun k hpos hle => absurd hle (Nat.not_le_of_lt hpos), rfl, rfl, rfl⟩
  · have ha := agrees_after policy es
    have hor := (disposed_act _ ((start policy).after es).connection e).symm.trans hd
    have hh := hearing_step ha hd
    rw [arrivals_append]
    show Heard (_ ++ ((e.arrival? ((start policy).after es).connection).toList ++ [])) _
    rw [List.append_nil]
    exact (ih (Bool.or_eq_false_iff.1 hor).1).hearing (carried_after policy es).current hh

end Run

/-! ## Streams -/

/-- What arrives at each socket is what its stream reports, as far as it has come. -/
def Fed (streams : Nat → FrameStream) (as : List (Nat × SocketEvent)) : Prop :=
  ∀ k, arrivedAt k as = (streams k).stream.events (arrivedAt k as).length

/-- The messages of the streams of the first sockets, `n` of them. -/
def messagesUpTo (n : Nat) (streams : Nat → FrameStream) : List String :=
  (List.range n).flatMap fun i => (streams (i + 1)).messages

section Fed

variable {streams : Nat → FrameStream} {as : List (Nat × SocketEvent)} {c : Connection}

theorem Fed.heard_of_closed (hf : Fed streams as) {k : Nat}
    (hc : SocketEvent.closed ∈ arrivedAt k as) :
    heard (arrivedAt k as) = (streams k).messages := by
  rw [hf k] at hc ⊢
  exact (streams k).heard_of_closed hc

/-- Of the sockets that are closed all messages were heard. -/
theorem Fed.heardUpTo_eq (hf : Fed streams as) {n : Nat}
    (hc : ∀ k, 0 < k → k ≤ n → SocketEvent.closed ∈ arrivedAt k as) :
    heardUpTo n as = messagesUpTo n streams := by
  refine List.flatMap_congr fun i hi => hf.heard_of_closed (hc (i + 1) (Nat.succ_pos i) ?_)
  exact List.mem_range.1 hi

/-- Between two sockets all messages of all sockets so far are delivered. -/
theorem Heard.delivered_between (h : Heard as c) (hf : Fed streams as)
    (hn : c.current? = none) : c.delivered = messagesUpTo c.opened streams := by
  rw [h.between (Option.map_eq_none_iff.1 hn)]
  refine hf.heardUpTo_eq fun k hpos hle => h.past k hpos hle ?_
  rw [hn]
  exact fun hx => by cases hx

/-- While a socket is open, all messages of the sockets before it and the first ones of its own are
delivered; and if nothing is left in its inbox, all that arrived. -/
theorem Heard.delivered_open (h : Heard as c) (hf : Fed streams as) {s : OpenSocket}
    (hk : s.number = c.opened) (hs : c.task.socket? = some s) :
    ∃ n, c.delivered = messagesUpTo (c.opened - 1) streams ++ (streams c.opened).messages.take n ∧
      (s.inbox = [] → SocketEvent.closed ∉ arrivedAt c.opened as ∧
        (streams c.opened).messages.take n = heard (arrivedAt c.opened as)) := by
  obtain ⟨taken, ht, hn, hpos, hd⟩ := h.current s hs
  have hup : heardUpTo (c.opened - 1) as = messagesUpTo (c.opened - 1) streams := by
    refine hf.heardUpTo_eq fun k hpos' hle => h.past k hpos' (by omega) ?_
    rw [current?_of_socket? hs, hk]
    exact fun hx => by have := Option.some.inj hx; omega
  have hpre : heard taken <+: (streams c.opened).messages := by
    have hp := (streams c.opened).heard_events_isPrefix (arrivedAt c.opened as).length
    rw [← hf c.opened, ht, heard_append_of_notMem hn] at hp
    exact (List.prefix_append _ _).trans hp
  have htake := List.prefix_iff_eq_take.1 hpre
  refine ⟨(heard taken).length, ?_, fun hi => ?_⟩
  · rw [hd, hup, ← htake]
  · rw [ht, hi, List.append_nil, ← htake]
    exact ⟨hn, rfl⟩

end Fed

/-- The state of a connection that has lost a socket and not opened another one. -/
theorem Carried.reconnecting {ss : List Sending} {h : History} {c : Connection}
    (hc : Carried ss h c) (ha : Agrees h c) (hd : c.disposed = false) (hn : c.current? = none)
    (ho : 0 < c.opened) : c.state.value = .reconnecting := by
  have hp : c.task.isPumping = false := Bool.eq_false_iff.2 fun hp => by
    obtain ⟨s, hs⟩ := Task.socket?_of_isPumping hp
    cases hn.symm.trans (current?_of_socket? hs)
  have hr : h.hasResult = true := by
    rw [hc.opened, List.countP_pos_iff] at ho
    obtain ⟨x, hx, hm⟩ := ho
    exact List.any_eq_true.2 ⟨x, hx, by rw [of_decide_eq_true hm]; rfl⟩
  rw [ha.state hd, Task.state, hp, hr]
  rfl

/-- A connection whose task holds a socket is connected, until it is torn down. -/
theorem Agrees.connected_of_current {h : History} {c : Connection} (ha : Agrees h c)
    (hd : c.disposed = false) {k : Nat} (hk : c.current? = some k) :
    c.state.value = .connected := by
  have hp : c.task.isPumping = true := by
    cases ht : c.task with
    | pumping | writing => rfl
    | closing => cases hd.symm.trans (ha.leaving (by rw [ht]; rfl))
    | _ => rw [current?, ht] at hk; cases hk
  rw [ha.state hd, Task.state, hp]
  rfl

namespace Run

/-! ## A stream is heard to its end -/

/-- Events that arrive one after the other. -/
def feed (es : List SocketEvent) : List Event :=
  es.map fun e => .news (.event e)

theorem arrivals_feed {r : Run} {k : Nat} (hk : r.connection.current? = some k)
    (es : List SocketEvent) :
    r.arrivals (feed es) = es.map (k, ·) ∧ (r.after (feed es)).connection.current? = some k ∧
      (r.after (feed es)).connection.disposed = r.connection.disposed ∧
      (r.after (feed es)).connection.opened = r.connection.opened := by
  induction es generalizing r with
  | nil => exact ⟨rfl, hk, rfl, rfl⟩
  | cons e es ih =>
    have hk' : (r.step (.news (.event e))).connection.current? = some k := by
      show (Task.receive e r.connection.task).socket?.map (·.number) = some k
      rw [Task.socket?_receive, Option.map_map]
      exact hk
    obtain ⟨ha, hc, hd, ho⟩ := ih hk'
    refine ⟨?_, hc, hd, ho⟩
    show (r.connection.current?.map (·, e)).toList ++ _ = _
    rw [hk]
    exact congrArg ((k, e) :: ·) ha

/-- Turns and finished writes bring nothing. -/
theorem arrivals_eq_nil {more : List Event} (hm : ∀ e ∈ more, e = .turn ∨ e = .news .written)
    (r : Run) : r.arrivals more = [] := by
  induction more generalizing r with
  | nil => rfl
  | cons e more ih =>
    have he : e.arrival? r.connection = none := by
      rcases hm e List.mem_cons_self with rfl | rfl <;> rfl
    rw [arrivals, he, ih fun e' he' => hm e' (List.mem_cons_of_mem _ he')]
    rfl

/-- The socket is lost some turns later. -/
def Loses (r : Run) : Prop :=
  ∃ more : List Event, (∀ e ∈ more, e = .turn ∨ e = .news .written) ∧
    (r.after more).connection.current? = none ∧
    (r.after more).connection.disposed = false ∧
    (r.after more).connection.opened = r.connection.opened

theorem Loses.of_after {r : Run} {block : List Event}
    (hb : ∀ e ∈ block, e = .turn ∨ e = .news .written)
    (ho : (r.after block).connection.opened = r.connection.opened) (h : Loses (r.after block)) :
    Loses r := by
  obtain ⟨more, hm, hc, hd, ho'⟩ := h
  refine ⟨block ++ more, fun e he => (List.mem_append.1 he).elim (hb e) (hm e), ?_⟩
  rw [after_append]
  exact ⟨hc, hd, ho'.trans ho⟩

/-- What does not say that the socket is closed leaves the task with its socket. -/
theorem onEvent_of_ne_closed (now : Nat) (url : String) (s : OpenSocket) (c : Connection)
    {e : SocketEvent} (he : e ≠ .closed) :
    (c.onEvent now url s e).disposed = c.disposed ∧ (c.onEvent now url s e).task = .pumping url s ∧
      (c.onEvent now url s e).queue = c.queue ∧ (c.onEvent now url s e).opened = c.opened := by
  cases e with
  | message payload =>
    exact ⟨disposed_deliver _ _, rfl, queue_deliver _ _, opened_deliver _ _⟩
  | error reason => exact ⟨rfl, rfl, rfl, rfl⟩
  | closed => exact absurd rfl he

/-- Without frames to write, each turn takes an event, up to the one that says that the socket is
closed. -/
theorem loses_of_queue_nil {r : Run} {url : String} {s : OpenSocket}
    (hd : r.connection.disposed = false) (ht : r.connection.task = .pumping url s)
    (hq : r.connection.queue = []) (hc : SocketEvent.closed ∈ s.inbox) : Loses r := by
  obtain ⟨inbox, hi⟩ : ∃ inbox, s.inbox = inbox := ⟨_, rfl⟩
  rw [hi] at hc
  induction inbox generalizing r s with
  | nil => exact absurd hc List.not_mem_nil
  | cons e inbox ih =>
    have hturn : (r.after [.turn]).connection =
        r.connection.onEvent r.now url { s with inbox := inbox } e := by
      simp [step, Event.act, turn, pump, ht, hd, hq, hi]
    have hb : ∀ e ∈ [Event.turn], e = .turn ∨ e = .news .written := by simp
    by_cases he : e = .closed
    · subst he
      refine ⟨[.turn], hb, ?_, ?_, ?_⟩
      · rw [hturn]
        rfl
      · rw [hturn]
        exact (disposed_become _ _).trans hd
      · rw [hturn]
        exact opened_become _ _
    · obtain ⟨hd', ht', hq', ho'⟩ :=
        onEvent_of_ne_closed r.now url { s with inbox := inbox } r.connection he
      rw [← hturn] at hd' ht' hq' ho'
      have hc' : SocketEvent.closed ∈ inbox := (List.mem_cons.1 hc).resolve_left (Ne.symm he)
      exact .of_after hb ho' (ih (hd'.trans hd) ht' (hq'.trans hq) hc' rfl)

/-- All frames are handed over first. -/
theorem loses_of_pumping {r : Run} {url : String} {s : OpenSocket}
    (hd : r.connection.disposed = false) (ht : r.connection.task = .pumping url s)
    (hc : SocketEvent.closed ∈ s.inbox) : Loses r := by
  obtain ⟨queue, hq⟩ : ∃ queue, r.connection.queue = queue := ⟨_, rfl⟩
  induction queue generalizing r with
  | nil => exact loses_of_queue_nil hd ht hq hc
  | cons frame queue ih =>
    let block : List Event := [.turn, .news .written, .turn]
    have h : (r.after block).connection.disposed = false ∧
        (r.after block).connection.task = .pumping url s ∧
        (r.after block).connection.queue = queue ∧
        (r.after block).connection.opened = r.connection.opened := by
      simp [block, step, Event.act, turn, pump, notice, proceed, call, ht, hd, hq]
    exact .of_after (by simp [block]) h.2.2.2 (ih h.1 h.2.1 h.2.2.1)

/-- A task that was told that its socket is closed gives it up. -/
theorem loses_of_closed {as : List (Nat × SocketEvent)} {r : Run} {k : Nat}
    (ha : Agrees r.history r.connection) (hh : Heard as r.connection)
    (hd : r.connection.disposed = false) (hk : r.connection.current? = some k)
    (hc : SocketEvent.closed ∈ arrivedAt r.connection.opened as) : Loses r := by
  have inbox : ∀ s, r.connection.task.socket? = some s → SocketEvent.closed ∈ s.inbox := by
    intro s hs
    obtain ⟨taken, ht, hn, -, -⟩ := hh.current s hs
    rw [ht] at hc
    exact (List.mem_append.1 hc).resolve_left hn
  cases ht : r.connection.task with
  | pumping url s => exact loses_of_pumping hd ht (inbox s (by rw [ht]; rfl))
  | writing url s finished =>
    let block : List Event := [.news .written, .turn]
    have h : (r.after block).connection.disposed = false ∧
        (r.after block).connection.task = .pumping url s ∧
        (r.after block).connection.opened = r.connection.opened := by
      simp [block, step, Event.act, turn, notice, proceed, ht, hd]
    exact .of_after (by simp [block]) h.2.2
      (loses_of_pumping h.1 h.2.1 (inbox s (by rw [ht]; rfl)))
  | closing => cases hd.symm.trans (ha.leaving (by rw [ht]; rfl))
  | _ => rw [current?, ht] at hk; cases hk

/-- While no socket is open, all messages of all sockets so far are delivered. -/
theorem between_sockets (policy : ReconnectPolicy) (streams : Nat → FrameStream)
    (es : List Event) (hd : ((start policy).after es).connection.disposed = false)
    (hf : Fed streams ((start policy).arrivals es))
    (hn : ((start policy).after es).connection.current? = none) :
    ((start policy).after es).connection.delivered =
        messagesUpTo ((start policy).after es).connection.opened streams ∧
      (0 < ((start policy).after es).connection.opened →
        ((start policy).after es).connection.state.value = .reconnecting) :=
  ⟨(heard_after policy es hd).delivered_between hf hn,
    (carried_after policy es).reconnecting (agrees_after policy es) hd hn⟩

section Fed

variable {policy : ReconnectPolicy} {streams : Nat → FrameStream} {es : List Event} {k : Nat}

/-- The rest of the stream of the current socket can arrive. -/
theorem exists_fed (hf : Fed streams ((start policy).arrivals es))
    (hk : ((start policy).after es).connection.current? = some k) :
    ∃ more : List SocketEvent, Fed streams ((start policy).arrivals (es ++ feed more)) ∧
      SocketEvent.closed ∈ arrivedAt k ((start policy).arrivals (es ++ feed more)) := by
  obtain ⟨n, hn⟩ : ∃ n, n = (arrivedAt k ((start policy).arrivals es)).length := ⟨_, rfl⟩
  obtain ⟨more, hm⟩ := SocketStream.events_isPrefix
    (Nat.le_max_left n (streams k).report.length) (streams k).stream
  have here : arrivedAt k ((start policy).arrivals (es ++ feed more)) =
      (streams k).stream.events (max n (streams k).report.length) := by
    rw [arrivals_append, (arrivals_feed hk more).1, arrivedAt_append, arrivedAt_map_self, hf k,
      ← hn]
    exact hm
  have there : ∀ j, j ≠ k → arrivedAt j ((start policy).arrivals (es ++ feed more)) =
      arrivedAt j ((start policy).arrivals es) := fun j hj => by
    rw [arrivals_append, (arrivals_feed hk more).1, arrivedAt_append,
      arrivedAt_map_of_ne (Ne.symm hj), List.append_nil]
  refine ⟨more, fun j => ?_, ?_⟩
  · by_cases hj : j = k
    · rw [hj, here, SocketStream.length_events]
    · rw [there j hj]
      exact hf j
  · rw [here]
    exact (SocketStream.events_isPrefix (Nat.le_max_right n _) _).mem (streams k).closed_mem_events

/-- A socket is given up at a turn, and only after it was closed. -/
theorem leaves_at_close (hd : ((start policy).after es).connection.disposed = false)
    (hk : ((start policy).after es).connection.current? = some k) {e : Event}
    (hd' : (((start policy).after es).step e).connection.disposed = false)
    (hn : (((start policy).after es).step e).connection.current? ≠ some k) :
    SocketEvent.closed ∈ arrivedAt k ((start policy).arrivals es) ∧
      (((start policy).after es).step e).connection.current? = none ∧
      (((start policy).after es).step e).connection.opened = k ∧
      (start policy).arrivals (es ++ [e]) = (start policy).arrivals es := by
  have hh := hearing_step (agrees_after policy es) hd'
  have hko := (carried_after policy es).current k hk
  have number : ∀ {s : OpenSocket}, ((start policy).after es).connection.task.socket? = some s →
      s.number = k := fun hs => Option.some.inj ((current?_of_socket? hs).symm.trans hk)
  have stays : ∀ {s s' : OpenSocket},
      ((start policy).after es).connection.task.socket? = some s →
      (((start policy).after es).step e).connection.task.socket? = some s' →
      s'.number = s.number → False := fun hs hs' he =>
    hn ((current?_of_socket? hs').trans (congrArg some (he.trans (number hs))))
  have arrivals : e.arrival? ((start policy).after es).connection = none →
      (start policy).arrivals (es ++ [e]) = (start policy).arrivals es := fun he => by
    rw [arrivals_append, Run.arrivals, he]
    exact List.append_nil _
  obtain ⟨a, ha⟩ : ∃ a, e.arrival? ((start policy).after es).connection = a := ⟨_, rfl⟩
  rw [ha] at hh
  cases hh with
  | opened hs => rw [current?, hs] at hk; cases hk
  | arrived e hs hs' => exact (stays hs hs' rfl).elim
  | message hs hi hs' => exact (stays hs hs' rfl).elim
  | error hs hi hs' => exact (stays hs hs' rfl).elim
  | lost hs hi hs' ho =>
    obtain ⟨taken, ht, -⟩ := (heard_after policy es hd).current _ hs
    refine ⟨?_, ?_, ho.trans hko.symm, arrivals ha⟩
    · rw [hko, ht, hi]
      exact List.mem_append_right _ List.mem_cons_self
    · rw [current?, hs']
      rfl
  | apart hs' =>
    refine absurd ?_ hn
    rw [current?, hs']
    exact hk

/-- Once the rest of its stream has arrived the socket is lost some turns later. -/
theorem exists_lost (hd : ((start policy).after es).connection.disposed = false)
    (hf : Fed streams ((start policy).arrivals es))
    (hk : ((start policy).after es).connection.current? = some k) :
    ∃ more : List Event,
      (∀ e ∈ more, e = .turn ∨ e = .news .written ∨ ∃ x, e = .news (.event x)) ∧
      Fed streams ((start policy).arrivals (es ++ more)) ∧
      (((start policy).after es).after more).connection.disposed = false ∧
      (((start policy).after es).after more).connection.current? = none ∧
      (((start policy).after es).after more).connection.opened = k := by
  obtain ⟨rest, hf', hcl⟩ := exists_fed hf hk
  obtain ⟨-, hk', hd', ho⟩ := arrivals_feed hk rest
  have hko := (carried_after policy es).current k hk
  have ha := agrees_after policy (es ++ feed rest)
  have hh := heard_after policy (es ++ feed rest)
  rw [after_append] at ha hh
  rw [hko, ← ho] at hcl
  obtain ⟨more, hm, hnone, hdm, hom⟩ :=
    loses_of_closed ha (hh (hd'.trans hd)) (hd'.trans hd) hk' hcl
  have has : (start policy).arrivals (es ++ (feed rest ++ more)) =
      (start policy).arrivals (es ++ feed rest) := by
    rw [← List.append_assoc, arrivals_append, arrivals_eq_nil hm, List.append_nil]
  refine ⟨feed rest ++ more, fun e he => ?_, has ▸ hf', ?_⟩
  · rcases List.mem_append.1 he with he | he
    · obtain ⟨x, -, rfl⟩ := List.mem_map.1 he
      exact .inr (.inr ⟨x, rfl⟩)
    · exact (hm e he).imp_right .inl
  · rw [after_append]
    exact ⟨hdm, hnone, (hom.trans ho).trans hko.symm⟩

/-- A task that rests with its socket has taken all that arrived. -/
theorem inbox_of_rest {r : Run} {url : String} {s : OpenSocket}
    (hd : r.connection.disposed = false) (ht : r.connection.task = .pumping url s)
    (hr : r.connection.turn r.now = none) : s.inbox = [] := by
  have hp : r.connection.pump r.now url s = none := by
    rw [Connection.turn, ht] at hr
    simpa [hd] using hr
  unfold pump at hp
  split at hp
  · cases hp
  · cases hp
  · next hi => exact hi

end Fed

/-- How a run stands to the stream of its current socket `k`, where `as` has arrived. -/
structure HearsStream (streams : Nat → FrameStream) (as : List (Nat × SocketEvent)) (r : Run)
    (k : Nat) : Prop where
  /-- The current socket is the one that was opened last. -/
  last : k = r.connection.opened
  /-- As long as there is a current socket the connection is connected. -/
  connected : r.connection.state.value = .connected
  /-- The first messages of the socket are delivered, after all those of the sockets before it. -/
  inOrder : ∃ n,
    r.connection.delivered = messagesUpTo (k - 1) streams ++ (streams k).messages.take n
  /-- Of what arrived nothing is missing when the task rests. -/
  atRest : ∀ url s, r.connection.task = .pumping url s → r.connection.turn r.now = none →
    SocketEvent.closed ∉ arrivedAt k as ∧
      r.connection.delivered = messagesUpTo (k - 1) streams ++ heard (arrivedAt k as)
  /-- The socket is given up just when it is closed, and then the connection is reconnecting and all
  messages of the socket are delivered. -/
  givenUp : ∀ e, let c' := (r.step e).connection
    c'.disposed = false → c'.current? ≠ some k →
      SocketEvent.closed ∈ arrivedAt k as ∧ c'.current? = none ∧
        c'.state.value = .reconnecting ∧ c'.delivered = messagesUpTo k streams
  /-- To get there it takes no more than that the rest of the stream arrives, that writes end and
  that the task takes its turns. -/
  comesToEnd : ∃ more : List Event,
    (∀ e ∈ more, e = .turn ∨ e = .news .written ∨ ∃ x, e = .news (.event x)) ∧
      Fed streams (as ++ r.arrivals more) ∧
      let c' := (r.after more).connection
      c'.disposed = false ∧ c'.current? = none ∧ c'.state.value = .reconnecting ∧
        c'.delivered = messagesUpTo k streams

/-- How a run stands to the streams of its sockets, where `as` has arrived. -/
structure HearsStreams (streams : Nat → FrameStream) (as : List (Nat × SocketEvent)) (r : Run) :
    Prop where
  /-- The messages that observers were told of are numbered from one. -/
  numbered : r.connection.latest.published.reverse = Connection.numbered r.connection.delivered
  /-- The last message is the one that is shown, under the number of all messages so far. -/
  shown : r.connection.latest.value =
    r.connection.delivered.getLast?.map (⟨r.connection.delivered.length, ·⟩)
  /-- Between two sockets all messages of those that were lost are delivered, one socket after the
  other. -/
  between : r.connection.current? = none →
    r.connection.delivered = messagesUpTo r.connection.opened streams
  /-- Between two sockets the connection is reconnecting. -/
  reconnecting : r.connection.current? = none → 0 < r.connection.opened →
    r.connection.state.value = .reconnecting
  current : ∀ k, r.connection.current? = some k → HearsStream streams as r k

theorem hearsStream {policy : ReconnectPolicy} {streams : Nat → FrameStream} {es : List Event}
    {k : Nat} (hd : ((start policy).after es).connection.disposed = false)
    (hf : Fed streams ((start policy).arrivals es))
    (hk : ((start policy).after es).connection.current? = some k) :
    HearsStream streams ((start policy).arrivals es) ((start policy).after es) k := by
  have ha := agrees_after policy es
  have hh := heard_after policy es hd
  obtain ⟨s, hs, rfl⟩ := Option.map_eq_some_iff.1 hk
  have hko : s.number = ((start policy).after es).connection.opened :=
    (carried_after policy es).current _ hk
  have hpos : 0 < s.number := by
    obtain ⟨-, -, -, hpos, -⟩ := hh.current s hs
    exact hko ▸ hpos
  obtain ⟨n, hdel, hrest⟩ := hh.delivered_open hf hko hs
  rw [← hko] at hdel hrest
  refine ⟨hko, ha.connected_of_current hd hk, ⟨n, hdel⟩, fun url s' ht hr => ?_, fun e => ?_, ?_⟩
  · have hs' : s' = s := by rw [ht] at hs; exact Option.some.inj hs
    obtain ⟨hcl, htake⟩ := hrest (hs' ▸ inbox_of_rest hd ht hr)
    exact ⟨hcl, htake ▸ hdel⟩
  · intro c' hd' hn
    obtain ⟨hcl, hnone, ho, has⟩ := leaves_at_close hd hk hd' hn
    have hb := between_sockets policy streams (es ++ [e])
    rw [after_concat, has, ho] at hb
    obtain ⟨hm, hv⟩ := hb hd' hf hnone
    exact ⟨hcl, hnone, hv hpos, hm⟩
  · obtain ⟨more, hm, hf', hd', hnone, ho⟩ := exists_lost hd hf hk
    have hb := between_sockets policy streams (es ++ more)
    rw [after_append, ho] at hb
    obtain ⟨hdm, hv⟩ := hb hd' hf' hnone
    exact ⟨more, hm, arrivals_append _ es more ▸ hf', hd', hnone, hv hpos, hdm⟩

/-- Whatever the streams of the sockets of a connection consist of, and however they end: bytes are a
message just when they are those of a text, and a socket reports the messages of its stream in order
and nothing else before the end of it, then an error if the stream failed, and from then on that it
is closed.

Whatever the owner, the network and the task do with such sockets, and in whatever order, until the
connection is torn down: the messages that observers are told of are those of the streams. -/
theorem messages_come_from_streams (policy : ReconnectPolicy) (streams : Nat → FrameStream)
    (es : List Event) :
    (∀ bytes p, (StreamItem.binary bytes).payload? = some p ↔ bytes = Bytes.ofText p) ∧
    (∀ k n, (streams k).stream.events n =
      ((streams k).messages.map SocketEvent.message ++ (streams k).fin.events ++
        List.replicate n SocketEvent.closed).take n) ∧
    (((start policy).after es).connection.disposed = false →
      Fed streams ((start policy).arrivals es) →
      HearsStreams streams ((start policy).arrivals es) ((start policy).after es)) := by
  refine ⟨fun _ _ => StreamItem.payload?_binary, fun k n => (streams k).events_eq n,
    fun hd hf => ?_⟩
  have hh := heard_after policy es hd
  have hb := between_sockets policy streams es hd hf
  exact {
    numbered := hh.published
    shown := hh.value
    between := fun hn => (hb hn).1
    reconnecting := fun hn => (hb hn).2
    current := fun k hk => hearsStream hd hf hk }

/-- The first socket fails in the middle, and a frame is on its way then; the second one is open. -/
def twoSockets : List Event :=
  [.connect "ws://localhost", .turn, .news (.answered none), .turn, .news (.event (.message "a")),
    .send "x", .turn, .news (.event (.message "b")), .news (.event (.error "reset")),
    .news (.event .closed), .news .written, .turn, .turn, .turn, .turn, .turn, .pass 1000, .turn,
    .news (.answered none), .turn, .news (.event (.message "c")), .turn]

/-- What the peer sends over the sockets. -/
def twoStreams : Nat → FrameStream
  | 1 =>
    { body := [.ping [], .text "a", .binary [0xFF], .binary [0x62]]
      fin := .failure "reset" [.text "lost"]
      passing := by decide }
  | 2 => { body := [.text "c", .pong []], fin := .close, passing := by decide }
  | _ => { body := [], fin := .stop, passing := by decide }

theorem fed_twoSockets : Fed twoStreams ((start .standard).arrivals twoSockets) := by
  have ha : (start .standard).arrivals twoSockets =
      [(1, .message "a"), (1, .message "b"), (1, .error "reset"), (1, .closed),
        (2, .message "c")] := by decide +kernel
  intro k
  rw [ha]
  match k with
  | 0 => rfl
  | 1 => decide +kernel
  | 2 => decide +kernel
  | k + 3 => simp [arrivedAt, SocketStream.events]

/-- The third message is the first one of the second socket. -/
theorem messages_come_from_streams_twoSockets :
    let c := ((start .standard).after twoSockets).connection
    c.disposed = false ∧ Fed twoStreams ((start .standard).arrivals twoSockets) ∧
      c.delivered = ["a", "b", "c"] ∧ c.latest.value = some ⟨3, "c"⟩ ∧
      c.state.value = .connected := by
  obtain ⟨-, -, h⟩ := messages_come_from_streams .standard twoStreams twoSockets
  have hhears := h (by decide +kernel) fed_twoSockets
  have hd : ((start .standard).after twoSockets).connection.delivered = ["a", "b", "c"] := by
    decide +kernel
  have hv := hhears.shown
  rw [hd] at hv
  exact ⟨by decide +kernel, fed_twoSockets, hd, hv, (hhears.current 2 (by decide +kernel)).connected⟩

end Run

end BackendMonitor.Connection
