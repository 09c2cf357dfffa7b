import BackendMonitor.Proofs.Connection.Turn
import Mathlib.Data.List.Induction

/-!
# Runs of a connection

A connection under a clock, with an owner, a network and a task that act in any order. A run is the
list of what happens (`Event`), and `Run.after` is what it leads to. On the way the milestones of
the task are noted, with their instants: what the task goes over to tells them (`Task.milestone?`).

* `Run.after_induction`: what every step keeps holds after every run;
* `Orderly`: which milestones may follow which. That makes one attempt or one socket at a time
  (`Orderly.attempts_le`).
-/

namespace BackendMonitor.Connection

/-! ## Milestones -/

/-- What the task of a connection goes through. -/
inductive Milestone where
  | attempted
  /-- The attempt was answered, with a failure or without. -/
  | answered (failed : Bool)
  /-- The task holds an open socket. -/
  | opened
  | refused
  | timedOut
  /-- The open socket was lost. -/
  | lost
deriving DecidableEq, Repr

namespace Milestone

/-- Whether a milestone is the result of an attempt. -/
def isResult : Milestone → Bool
  | .opened | .refused | .timedOut => true
  | _ => false

/-- Whether after a milestone there is neither an attempt under way nor an open socket. -/
def isFailure : Milestone → Bool
  | .refused | .timedOut | .lost => true
  | _ => false

/-- Whether a milestone may follow the last one, if there is one. -/
def mayFollow : Option Milestone → Milestone → Bool
  | none, .attempted => true
  | some .attempted, .answered _ => true
  | some .attempted, .timedOut => true
  | some (.answered failed), .opened => !failed
  | some (.answered failed), .refused => failed
  | some .opened, .lost => true
  | some m, .attempted => m.isFailure
  | _, _ => false

theorem mayFollow_attempted (m : Milestone) : mayFollow (some m) .attempted = m.isFailure := by
  cases m <;> rfl

/-- An attempt is made when there is nothing under way, and a failure leaves nothing under way. -/
theorem balance {last : Option Milestone} {m : Milestone} (h : mayFollow last m = true) :
    ((if last.any (!·.isFailure) then 1 else 0) + if m = .attempted then 1 else 0) =
      (if m.isFailure then 1 else 0) + if m.isFailure then 0 else 1 := by
  revert h
  rcases last with _ | _ | (_ | _) | _ | _ | _ | _ <;> rcases m with _ | (_ | _) | _ | _ | _ | _ <;>
    decide

end Milestone

/-- What the task went through and when, newest first. -/
abbrev History := List (Nat × Milestone)

/-- The last milestone. -/
def History.last? (h : History) : Option Milestone :=
  h.head?.map (·.2)

/-- How many attempts were made. -/
def History.attempts (h : History) : Nat :=
  h.countP (·.2 = .attempted)

/-- How many attempts failed, and sockets were lost, since a socket was opened last. -/
def History.outage : History → Nat
  | [] => 0
  | (_, m) :: h => if m = .opened then 0 else if m.isFailure then outage h + 1 else outage h

/-- How many attempts failed and how many open sockets were lost. -/
def History.failures (h : History) : Nat :=
  h.countP (·.2.isFailure)

/-- Whether an attempt had a result. -/
def History.hasResult (h : History) : Bool :=
  h.any (·.2.isResult)

/-- Whether each milestone could follow the one before. -/
def Orderly : History → Prop
  | [] => True
  | m :: h => Milestone.mayFollow (History.last? h) m.2 = true ∧ Orderly h

/-- Every attempt but the last one is over, and so is the socket that it may have opened: without a
failure or a loss there is no next one. -/
theorem Orderly.attempts_eq {h : History} (ho : Orderly h) :
    h.attempts = h.failures + if h.last?.any (!·.isFailure) then 1 else 0 := by
  induction h with
  | nil => rfl
  | cons m h ih =>
    have ih := ih ho.2
    have hb := Milestone.balance ho.1
    unfold History.attempts History.failures at ih ⊢
    rw [List.countP_cons, List.countP_cons, ih]
    simp only [decide_eq_true_eq]
    show _ = _ + if (!m.2.isFailure) = true then 1 else 0
    cases hf : m.2.isFailure with
    | true =>
      simp only [hf, if_true, Bool.not_true, Bool.false_eq_true, if_false] at hb ⊢
      omega
    | false =>
      simp only [hf, if_true, Bool.not_false, Bool.false_eq_true, if_false] at hb ⊢
      omega

theorem Orderly.attempts_le {h : History} (ho : Orderly h) : h.attempts ≤ h.failures + 1 := by
  rw [ho.attempts_eq]
  split <;> omega

/-- The milestone that the task comes to when it goes from one point to another. -/
def Task.milestone? : Task → Task → Option Milestone
  | .starting _, .opening .. | .waiting .., .opening .. => some .attempted
  | .opening _ _ none, .opening _ _ (some answer) => some (.answered answer.isSome)
  | .opening .., .pumping .. => some .opened
  | .opening _ _ (some _), .waiting .. => some .refused
  | .opening _ _ none, .waiting .. => some .timedOut
  | .pumping .., .waiting .. => some .lost
  | _, _ => none

/-- The end of the task is no milestone. -/
theorem Task.milestone?_ended (t : Task) : t.milestone? .ended = none := by
  rcases t with _ | _ | ⟨_, _, _ | _⟩ | _ | _ | _ | _ | _ <;> rfl

theorem Task.milestone?_self (t : Task) : t.milestone? t = none := by
  rcases t with _ | _ | ⟨_, _, _ | _⟩ | _ | _ | _ | _ | _ <;> rfl

/-- The arrival of an event is no milestone. -/
theorem Task.milestone?_receive (e : SocketEvent) (t : Task) :
    t.milestone? (Task.receive e t) = none := by
  cases t with
  | pumping | writing | closing => rfl
  | _ => exact Task.milestone?_self _

/-- Notes the milestone that the task comes to, if it is one. -/
def History.note (now : Nat) (before after : Task) (h : History) : History :=
  match before.milestone? after with
  | some m => (now, m) :: h
  | none => h

theorem History.note_of_some {now : Nat} {before after : Task} {m : Milestone}
    (hm : before.milestone? after = some m) (h : History) :
    h.note now before after = (now, m) :: h := by
  simp only [History.note, hm]

theorem History.note_of_none {now : Nat} {before after : Task}
    (hm : before.milestone? after = none) (h : History) : h.note now before after = h := by
  simp only [History.note, hm]

theorem History.note_self (now : Nat) (t : Task) (h : History) : h.note now t t = h :=
  note_of_none t.milestone?_self h

/-! ## Events -/

/-- What can happen to a connection. -/
inductive Event where
  | connect (url : String)
  | send (frame : String)
  | dispose
  | drop
  /-- News arrive from the network. -/
  | news (n : News)
  /-- The task takes a turn. -/
  | turn
  /-- Time passes, in milliseconds. -/
  | pass (ms : Nat)

/-- Whether an event is the end of the connection. -/
def Event.isTeardown : Event → Bool
  | .dispose | .drop => true
  | _ => false

/-- The address that the owner asks for. -/
def Event.url? : Event → Option String
  | .connect url => some url
  | _ => none

/-- What becomes of a connection at the instant `now`. -/
def Event.act (now : Nat) (c : Connection) : Event → Connection
  | .connect url => c.connect url
  | .send frame => (c.send frame).1
  | .dispose => c.dispose
  | .drop => c.drop
  | .news n => c.notice n
  | .turn => (c.turn now).getD c
  | .pass _ => c

/-- How long an event takes. -/
def Event.duration : Event → Nat
  | .pass ms => ms
  | _ => 0

/-- Whether the connection is not torn down among some events. -/
def Undisturbed (es : List Event) : Prop :=
  ∀ e ∈ es, e.isTeardown = false

instance (es : List Event) : Decidable (Undisturbed es) :=
  inferInstanceAs (Decidable (∀ e ∈ es, e.isTeardown = false))

/-! ## Runs -/

/-- A connection under a clock, with what its task went through. -/
structure Run where
  connection : Connection
  now : Nat := 0
  history : History := []

namespace Run

/-- A connection to which nothing has happened. -/
def start (policy : ReconnectPolicy) : Run := { connection := { policy := policy } }

/-- One thing happens. -/
def step (r : Run) (e : Event) : Run where
  connection := e.act r.now r.connection
  now := r.now + e.duration
  history := r.history.note r.now r.connection.task (e.act r.now r.connection).task

/-- What a run leads to. -/
def after (r : Run) (es : List Event) : Run :=
  es.foldl step r

@[simp] theorem after_nil (r : Run) : r.after [] = r := rfl

@[simp] theorem after_cons (r : Run) (e : Event) (es : List Event) :
    r.after (e :: es) = (r.step e).after es := rfl

theorem after_append (r : Run) (es fs : List Event) :
    r.after (es ++ fs) = (r.after es).after fs :=
  List.foldl_append

theorem after_concat (r : Run) (es : List Event) (e : Event) :
    r.after (es ++ [e]) = (r.after es).step e :=
  after_append r es [e]

/-- What every step keeps, given what happened before, holds after every run. -/
theorem after_induction {r : Run} (motive : List Event → Run → Prop) (hr : motive [] r)
    (hstep : ∀ es e, motive es (r.after es) → motive (es ++ [e]) ((r.after es).step e))
    (es : List Event) : motive es (r.after es) := by
  induction es using List.reverseRecOn with
  | nil => exact hr
  | append_singleton es e ih =>
    rw [after_concat]
    exact hstep es e ih

/-! ## Punctual runs -/

/-- Whether an event is in time: time passes only while the task has nothing to do, and only up to
the instant at which it has. -/
def isPunctual (r : Run) : Event → Bool
  | .pass ms => (r.connection.turn r.now).isNone && r.connection.due?.all (r.now + ms ≤ ·)
  | _ => true

/-- Whether all of some events are in time. -/
def punctual : Run → List Event → Bool
  | _, [] => true
  | r, e :: es => r.isPunctual e && (r.step e).punctual es

/-- What every step but the end of the connection keeps if it is in time holds as long as the
connection is not torn down. -/
theorem after_induction_of_punctual (motive : Run → Prop)
    (hstep : ∀ r e, e.isTeardown = false → r.isPunctual e = true → motive r → motive (r.step e))
    {es : List Event} (hu : Undisturbed es) {r : Run} (hp : r.punctual es = true)
    (hr : motive r) : motive (r.after es) := by
  induction es generalizing r with
  | nil => exact hr
  | cons e es ih =>
    obtain ⟨he, hp⟩ := (Bool.and_eq_true _ _).mp hp
    refine ih (fun e' he' => hu e' (List.mem_cons_of_mem _ he')) hp ?_
    exact hstep r e (hu e List.mem_cons_self) he hr

end Run

end BackendMonitor.Connection
