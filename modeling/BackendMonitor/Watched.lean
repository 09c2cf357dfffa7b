/-!
# Watched values

A value that observers watch. They are told of a value that is published, and can count how often
that happened; a value that is amended changes without anyone being told.
-/

namespace BackendMonitor

/-- A value that observers watch. -/
structure Watched (α : Type) where
  value : α
  /-- The values that observers were told of, newest first. -/
  published : List α := []
deriving Repr

namespace Watched

variable {α : Type}

/-- Changes the value and tells the observers. -/
def publish (a : α) (w : Watched α) : Watched α :=
  ⟨a, a :: w.published⟩

/-- Changes the value and tells nobody. -/
def amend (a : α) (w : Watched α) : Watched α :=
  { w with value := a }

/-- How often observers were told of a value. -/
def count (w : Watched α) : Nat :=
  w.published.length

@[simp] theorem value_publish (a : α) (w : Watched α) : (w.publish a).value = a := rfl

@[simp] theorem published_publish (a : α) (w : Watched α) :
    (w.publish a).published = a :: w.published := rfl

end Watched

end BackendMonitor
