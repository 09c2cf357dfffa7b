import Mathlib.Data.List.TakeWhile
import BackendMonitor.Text.Blank

/-!
# Texts without the blanks around them

What trimming takes off a text are blanks (`exists_trim`), and it takes all of them: what it leaves
neither starts nor ends with a blank (`isTrimmed_trim`), so there is nothing left to trim (`trim_trim`).
-/

namespace BackendMonitor.Text

variable {cs : List Char}

/-- A text neither starts nor ends with a blank. -/
def IsTrimmed (cs : List Char) : Prop :=
  (∀ c ∈ cs.head?, isBlank c = false) ∧ ∀ c ∈ cs.getLast?, isBlank c = false

theorem dropWhile_eq_self {α : Type} {p : α → Bool} {xs : List α}
    (h : ∀ x ∈ xs.head?, p x = false) : xs.dropWhile p = xs := by
  cases xs with
  | nil => rfl
  | cons x xs => exact List.dropWhile_cons_of_neg (by simp [h x rfl])

theorem toList_trim (s : String) : (trim s).toList = trimRight (trimLeft s.toList) := by
  rw [trim, String.toList_ofList]

theorem exists_trimLeft (cs : List Char) :
    ∃ left, cs = left ++ trimLeft cs ∧ ∀ c ∈ left, isBlank c = true :=
  ⟨cs.takeWhile isBlank, List.takeWhile_append_dropWhile.symm, fun _ => List.mem_takeWhile_imp⟩

theorem exists_trimRight (cs : List Char) :
    ∃ right, cs = trimRight cs ++ right ∧ ∀ c ∈ right, isBlank c = true := by
  obtain ⟨left, hleft, hblank⟩ := exists_trimLeft cs.reverse
  refine ⟨left.reverse, ?_, fun c hc => hblank c (List.mem_reverse.1 hc)⟩
  rw [trimRight, ← List.reverse_append, ← trimLeft, ← hleft, List.reverse_reverse]

/-- Trimming takes nothing but blanks off the ends of a text. -/
theorem exists_trim (s : String) :
    ∃ left right, s.toList = left ++ (trim s).toList ++ right ∧
      (∀ c ∈ left, isBlank c = true) ∧ ∀ c ∈ right, isBlank c = true := by
  obtain ⟨left, hleft, hl⟩ := exists_trimLeft s.toList
  obtain ⟨right, hright, hr⟩ := exists_trimRight (trimLeft s.toList)
  refine ⟨left, right, ?_, hl, hr⟩
  rw [toList_trim, List.append_assoc, ← hright, ← hleft]

theorem isTrimmed_trimRight (h : ∀ c ∈ cs.head?, isBlank c = false) : IsTrimmed (trimRight cs) := by
  refine ⟨fun c hc => ?_, fun c hc => ?_⟩
  · obtain ⟨right, hright, -⟩ := exists_trimRight cs
    refine h c ?_
    rw [hright, List.head?_append, Option.mem_def.1 hc, Option.some_or]
    rfl
  · rw [trimRight, List.getLast?_reverse] at hc
    exact head_dropWhile isBlank cs.reverse c hc

/-- Trimming leaves no blank at the ends of a text. -/
theorem isTrimmed_trim (s : String) : IsTrimmed (trim s).toList := by
  rw [toList_trim]
  exact isTrimmed_trimRight (head_dropWhile isBlank s.toList)

theorem trim_of_isTrimmed {s : String} (h : IsTrimmed s.toList) : trim s = s := by
  have hreverse : ∀ c ∈ s.toList.reverse.head?, isBlank c = false := by
    rw [List.head?_reverse]
    exact h.2
  rw [trim, trimLeft, dropWhile_eq_self h.1, trimRight, dropWhile_eq_self hreverse,
    List.reverse_reverse, String.ofList_toList]

/-- There is nothing left to trim. -/
theorem trim_trim (s : String) : trim (trim s) = trim s :=
  trim_of_isTrimmed (isTrimmed_trim s)

end BackendMonitor.Text
