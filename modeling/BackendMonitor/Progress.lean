import BackendMonitor.Decimal.Layout

/-!
# Progress

The fraction of a job that is done, from 0 to 1.
-/

namespace BackendMonitor

/-- The fraction of a job that is done. It comes from `Progress.ofFloat?`, so it lies between 0
and 1. -/
structure Progress where
  value : Float
deriving Repr

namespace Progress

/-- A reported number as progress: what lies outside 0 to 1 is moved to the nearer end. What is no
number is no progress. -/
def ofFloat? (x : Float) : Option Progress :=
  if x.isNaN then none
  else if x < 0.0 then some ⟨0.0⟩
  else if 1.0 < x then some ⟨1.0⟩
  else some ⟨x⟩

/-- Whole percent; a half goes up. -/
def percent (p : Progress) : Nat :=
  (p.value * 100.0).round.toUInt8.toNat

/-- Progress as it is shown. -/
def display (p : Progress) : String :=
  s!"{p.percent}%"

/-- Whether all is done. -/
def isComplete (p : Progress) : Bool :=
  1.0 ≤ p.value

/-- Progress is compared as numbers are: both zeros are the same. -/
def same (p q : Progress) : Bool :=
  p.value == q.value

end Progress

end BackendMonitor
