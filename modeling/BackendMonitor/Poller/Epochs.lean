/-!
# Poll epochs

Polls are numbered in the order in which they are made. A result is stale, and refused, if a poll
with its number or a later one has been accepted before.
-/

namespace BackendMonitor

/-- The numbers of the last poll that was made and of the last one that was accepted. -/
structure Epochs where
  issued : Nat := 0
  applied : Nat := 0
deriving DecidableEq, Repr, Inhabited

namespace Epochs

/-- Numbers the next poll; its number is the one last issued then. -/
def issue (e : Epochs) : Epochs :=
  { e with issued := e.issued + 1 }

/-- Accepts the result of a poll, unless it is stale. -/
def accept? (epoch : Nat) (e : Epochs) : Option Epochs :=
  if epoch ≤ e.applied then none else some { e with applied := epoch }

end Epochs

end BackendMonitor
