/-!
# Blank characters

The characters with the Unicode property `White_Space`, and the texts that are trimmed by them:

* `trim` takes them off both ends of a text;
* `isBlankText` holds of the texts that trimming leaves empty (`trim_eq_empty_iff`).
-/

namespace BackendMonitor.Text

/-- The characters with the property `White_Space`: six blanks of ASCII, and nineteen others. -/
def isBlank (c : Char) : Bool :=
  let n := c.toNat
  (0x09 ≤ n && n ≤ 0x0D) || n == 0x20 || n == 0x85 || n == 0xA0 || n == 0x1680 ||
    (0x2000 ≤ n && n ≤ 0x200A) || n == 0x2028 || n == 0x2029 || n == 0x202F || n == 0x205F ||
    n == 0x3000

/-- A text without the blanks at its start. -/
def trimLeft (cs : List Char) : List Char :=
  cs.dropWhile isBlank

/-- A text without the blanks at its end. -/
def trimRight (cs : List Char) : List Char :=
  (cs.reverse.dropWhile isBlank).reverse

/-- A text without the blanks at its two ends. -/
def trim (s : String) : String :=
  String.ofList (trimRight (trimLeft s.toList))

/-- Whether a text holds nothing but blanks. -/
def isBlankText (s : String) : Bool :=
  s.toList.all isBlank

theorem dropWhile_eq_nil_iff {α : Type} (p : α → Bool) (xs : List α) :
    xs.dropWhile p = [] ↔ xs.all p = true := by
  induction xs with
  | nil => simp
  | cons x xs ih =>
    by_cases h : p x = true
    · simp [List.dropWhile_cons_of_pos h, h, ih]
    · simp [List.dropWhile_cons_of_neg h, h]

/-- Dropping what satisfies `p` leaves nothing, or starts with something that does not. -/
theorem head_dropWhile {α : Type} (p : α → Bool) (xs : List α) :
    ∀ x ∈ (xs.dropWhile p).head?, p x = false := by
  induction xs with
  | nil => simp
  | cons x xs ih =>
    by_cases h : p x = true
    · simpa [List.dropWhile_cons_of_pos h] using ih
    · simp [List.dropWhile_cons_of_neg h, h]

theorem trim_eq_empty_iff (s : String) : trim s = "" ↔ isBlankText s = true := by
  have h : trim s = "" ↔ trimRight (trimLeft s.toList) = [] := by
    rw [trim, ← String.toList_inj]
    simp
  rw [h, trimRight, List.reverse_eq_nil_iff, dropWhile_eq_nil_iff, List.all_reverse, trimLeft,
    isBlankText]
  constructor
  · intro hall
    have hnil : s.toList.dropWhile isBlank = [] := by
      cases hd : s.toList.dropWhile isBlank with
      | nil => rfl
      | cons c cs =>
        have hc := head_dropWhile isBlank s.toList c (by simp [hd])
        rw [hd] at hall
        simp [hc] at hall
    exact (dropWhile_eq_nil_iff _ _).1 hnil
  · intro hall
    simp [(dropWhile_eq_nil_iff _ _).2 hall]

end BackendMonitor.Text
