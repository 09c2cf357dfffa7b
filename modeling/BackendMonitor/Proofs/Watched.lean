import BackendMonitor.Watched
import Mathlib.Data.List.Chain

/-!
# What observers of a watched value see

Observers see a watched value through a view of it, and are told of it whenever it is published.
What they see is in order (`Watched.InOrder`) if each view could follow the one before it, and the
last one is that of the value that there is.
-/

namespace BackendMonitor.Watched

variable {α β : Type} {view : α → β} {first : β} {mayFollow : β → β → Prop} {w : Watched α} {a : α}

/-- What observers saw, newest first; the first value of all looked like `first`. -/
def seen (view : α → β) (first : β) (w : Watched α) : List β :=
  w.published.map view ++ [first]

/-- Observers were told of what there is now, and each thing that they saw could follow the one
before. -/
structure InOrder (view : α → β) (first : β) (mayFollow : β → β → Prop) (w : Watched α) : Prop where
  head : (w.seen view first).head? = some (view w.value)
  chain : (w.seen view first).IsChain fun later earlier => mayFollow earlier later

/-- A value that is published keeps the order if it may follow the one that there was. -/
theorem InOrder.publish (h : InOrder view first mayFollow w)
    (ha : mayFollow (view w.value) (view a)) : InOrder view first mayFollow (w.publish a) := by
  refine ⟨rfl, ?_⟩
  obtain ⟨l, hl⟩ := List.head?_eq_some_iff.1 h.head
  have hc := h.chain
  change List.IsChain _ (view a :: w.seen view first)
  rw [hl] at hc ⊢
  exact List.isChain_cons_cons.2 ⟨ha, hc⟩

/-- A value that is amended keeps the order if it looks the same. -/
theorem InOrder.amend (h : InOrder view first mayFollow w) (ha : view a = view w.value) :
    InOrder view first mayFollow (w.amend a) :=
  ⟨h.head.trans (congrArg some ha.symm), h.chain⟩

end BackendMonitor.Watched
