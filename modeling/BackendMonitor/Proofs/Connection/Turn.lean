import BackendMonitor.Connection

/-!
# Turns of a connection

What one turn of the task of a connection can do (`Turn`, `turn_eq_some`), with what it looked at.
Everything that holds of all runs is proved by cases on this.
-/

namespace BackendMonitor.Connection

/-! ## States -/

theorem become_self {c : Connection} {next : ConnectionState} (h : c.state.value = next) :
    c.become next = c := by
  unfold become
  rw [if_pos (by simp [h])]

/-- A state that may follow is published. -/
theorem become_of_canBecome {c : Connection} {next : ConnectionState} (hd : c.disposed = false)
    (hn : c.state.value ≠ next) (hc : c.state.value.canBecome next = true) :
    c.become next = { c with state := c.state.publish next } := by
  unfold become
  rw [if_neg (by simp [hd, hn]), if_neg (by simp [hc])]

/-! What concerns the state leaves everything else alone. -/

@[simp] theorem policy_become (next : ConnectionState) (c : Connection) :
    (c.become next).policy = c.policy := by
  unfold become
  split
  · rfl
  · split <;> rfl

@[simp] theorem retry_become (next : ConnectionState) (c : Connection) :
    (c.become next).retry = c.retry := by
  unfold become
  split
  · rfl
  · split <;> rfl

@[simp] theorem disposed_become (next : ConnectionState) (c : Connection) :
    (c.become next).disposed = c.disposed := by
  unfold become
  split
  · rfl
  · split <;> rfl

@[simp] theorem calls_become (next : ConnectionState) (c : Connection) :
    (c.become next).calls = c.calls := by
  unfold become
  split
  · rfl
  · split <;> rfl

@[simp] theorem queue_become (next : ConnectionState) (c : Connection) :
    (c.become next).queue = c.queue := by
  unfold become
  split
  · rfl
  · split <;> rfl

@[simp] theorem opened_become (next : ConnectionState) (c : Connection) :
    (c.become next).opened = c.opened := by
  unfold become
  split
  · rfl
  · split <;> rfl

/-! ## Turns -/

/-- What one turn of the task does at the instant `now`. -/
inductive Turn (now : Nat) (c : Connection) : Connection → Prop where
  /-- The connection was torn down while there was no socket. -/
  | stop (hd : c.disposed = true) (ht : c.task.isRunning = true) (hs : c.task.socket? = none) :
      Turn now c (c.proceed .ended)
  | start {url : String} (hd : c.disposed = false) (ht : c.task = .starting url) :
      Turn now c (c.attempt now url)
  | again {url : String} {next : Nat} (hd : c.disposed = false) (ht : c.task = .waiting url next)
      (hn : next ≤ now) : Turn now c (c.attempt now url)
  | opened {url : String} {deadline : Nat} (hd : c.disposed = false)
      (ht : c.task = .opening url deadline (some none)) : Turn now c (c.onOpened url)
  | refused {url : String} {deadline : Nat} {f : Failure} (hd : c.disposed = false)
      (ht : c.task = .opening url deadline (some (some f))) : Turn now c (c.onLost now url)
  | timedOut {url : String} {deadline : Nat} (hd : c.disposed = false)
      (ht : c.task = .opening url deadline none) (hn : deadline ≤ now) :
      Turn now c (c.onLost now url)
  /-- The connection was torn down while the socket was open. -/
  | close {url : String} {s : OpenSocket} (hd : c.disposed = true) (ht : c.task = .pumping url s) :
      Turn now c (c.close now s)
  | write {url : String} {s : OpenSocket} {frame : String} {queue : List String}
      (hd : c.disposed = false) (ht : c.task = .pumping url s) (hq : c.queue = frame :: queue) :
      Turn now c
        (({ c with queue := queue }.call now (.write s.number frame)).proceed
          (.writing url s false))
  | message {url : String} {s : OpenSocket} {payload : String} {inbox : List SocketEvent}
      (hd : c.disposed = false) (ht : c.task = .pumping url s) (hq : c.queue = [])
      (hi : s.inbox = .message payload :: inbox) :
      Turn now c ((c.deliver payload).proceed (.pumping url { s with inbox := inbox }))
  | error {url : String} {s : OpenSocket} {reason : String} {inbox : List SocketEvent}
      (hd : c.disposed = false) (ht : c.task = .pumping url s) (hq : c.queue = [])
      (hi : s.inbox = .error reason :: inbox) :
      Turn now c (c.proceed (.pumping url { s with inbox := inbox }))
  | lost {url : String} {s : OpenSocket} {inbox : List SocketEvent} (hd : c.disposed = false)
      (ht : c.task = .pumping url s) (hq : c.queue = []) (hi : s.inbox = .closed :: inbox) :
      Turn now c (c.onLost now url)
  | written {url : String} {s : OpenSocket} (ht : c.task = .writing url s true) :
      Turn now c (c.proceed (.pumping url s))
  /-- The socket is closed, and the task ends. -/
  | closed {s : OpenSocket} (ht : c.task = .closing s true) : Turn now c (c.proceed .ended)

theorem Turn.of_pump {now : Nat} {url : String} {s : OpenSocket} {c c' : Connection}
    (hd : c.disposed = false) (ht : c.task = .pumping url s) (h : c.pump now url s = some c') :
    Turn now c c' := by
  unfold pump at h
  split at h
  · next hq => cases h; exact .write hd ht hq
  · next e inbox hq hi =>
    cases h
    cases e with
    | message payload => exact .message hd ht hq hi
    | error reason => exact .error hd ht hq hi
    | closed => exact .lost hd ht hq hi
  · cases h

theorem turn_eq_some {now : Nat} {c c' : Connection} (h : c.turn now = some c') :
    Turn now c c' := by
  unfold turn at h
  split at h
  · cases h
  · cases h
  · next ht =>
    cases h
    split
    · next hd => exact .stop hd (by rw [ht]; rfl) (by rw [ht]; rfl)
    · next hd => exact .start (by simpa using hd) ht
  · next ht =>
    split at h
    · next hd => cases h; exact .stop hd (by rw [ht]; rfl) (by rw [ht]; rfl)
    · next hd =>
      have hd : c.disposed = false := by simpa using hd
      split at h
      · cases h; exact .opened hd ht
      · cases h; exact .refused hd ht
      · split at h
        · next hn => cases h; exact .timedOut hd ht hn
        · cases h
  · next ht =>
    split at h
    · next hd => cases h; exact .close hd ht
    · next hd => exact .of_pump (by simpa using hd) ht h
  · next ht =>
    split at h
    · next hf => cases h; exact .written (by rw [ht, hf])
    · cases h
  · next ht =>
    split at h
    · next hd => cases h; exact .stop hd (by rw [ht]; rfl) (by rw [ht]; rfl)
    · next hd =>
      split at h
      · next hn => cases h; exact .again (by simpa using hd) ht hn
      · cases h
  · next ht =>
    split at h
    · next hf => cases h; exact .closed (by rw [ht, hf])
    · cases h

end BackendMonitor.Connection
