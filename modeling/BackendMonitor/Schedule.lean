/-!
# Schedules

How a machine runs against a clock. The machine takes turns as long as it has something to do
(`runTurns`), and then rests until an instant at which something is due. `passTime` lets time pass:
it goes from one such instant to the next and lets the machine run at each of them.

Instants and lengths of time are whole milliseconds.
-/

namespace BackendMonitor.Schedule

variable {σ : Type}

/-- Takes turns until there is none left to take, `limit` of them at most. -/
def runTurns (turn : σ → Option σ) : Nat → σ → σ
  | 0, s => s
  | limit + 1, s =>
    match turn s with
    | some s => runTurns turn limit s
    | none => s

/-- Lets time pass from `now` to `target`. At every instant at which something is due the machine
runs, and also at the target. There are at most `limit` such instants before the target. -/
def passTime (due? : σ → Option Nat) (run : Nat → σ → σ) (target : Nat) :
    Nat → Nat → σ → σ
  | 0, _, s => run target s
  | limit + 1, now, s =>
    match due? s with
    | some instant =>
      if now < instant && instant < target then
        passTime due? run target limit instant (run instant s)
      else run target s
    | none => run target s

end BackendMonitor.Schedule
