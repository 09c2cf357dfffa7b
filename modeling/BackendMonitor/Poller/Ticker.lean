/-!
# Tickers

A ticker is due at fixed intervals. A tick that is taken in time leaves the next one where it is;
a tick that is taken late skips the ones that have been missed, and goes on with the same grid.
-/

namespace BackendMonitor

/-- When the next tick of a ticker is due. -/
structure Ticker where
  period : Nat
  due : Nat
deriving DecidableEq, Repr

namespace Ticker

/-- How late a tick may be taken without any being skipped. -/
def grace : Nat := 5

/-- Takes the tick that is due, at the instant `now`. -/
def take (now : Nat) (t : Ticker) : Ticker :=
  { t with
    due :=
      if now ≤ t.due + grace then t.due + t.period
      else now + t.period - (now - t.due) % t.period }

/-- Whether a tick is due. -/
def isDue (now : Nat) (t : Ticker) : Bool :=
  t.due ≤ now

end Ticker

end BackendMonitor
