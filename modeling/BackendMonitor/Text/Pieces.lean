/-!
# Texts in pieces

A text is cut at every place where a separator stands. There is always one piece more than there
are separators.

* `pieces` cuts at a character, and `cutAtLast?` only where it stands last;
* `lines` cuts at line feeds, with the carriage returns before them.
-/

namespace BackendMonitor.Text

/-- The pieces between separators. -/
def pieces (separator : Char) : List Char → List (List Char)
  | [] => [[]]
  | c :: cs =>
    if c = separator then [] :: pieces separator cs
    else
      match pieces separator cs with
      | piece :: more => (c :: piece) :: more
      | [] => [[c]]

theorem pieces_ne_nil (separator : Char) (cs : List Char) : pieces separator cs ≠ [] := by
  cases cs with
  | nil => simp [pieces]
  | cons c cs =>
    rw [pieces]
    split
    · simp
    · split <;> simp

/-- What stands before the last separator, and what stands behind it. -/
def cutAtLast? (separator : Char) : List Char → Option (List Char × List Char)
  | [] => none
  | c :: cs =>
    match cutAtLast? separator cs with
    | some (front, behind) => some (c :: front, behind)
    | none => if c = separator then some ([], cs) else none

theorem eq_append_of_cutAtLast? {separator : Char} {cs front behind : List Char}
    (h : cutAtLast? separator cs = some (front, behind)) :
    cs = front ++ separator :: behind := by
  induction cs generalizing front with
  | nil => cases h
  | cons c cs ih =>
    rw [cutAtLast?] at h
    split at h
    · next f b hf =>
      obtain ⟨rfl, rfl⟩ := Prod.mk.inj (Option.some.inj h)
      rw [ih hf, List.cons_append]
    · split at h
      · next hc =>
        obtain ⟨rfl, rfl⟩ := Prod.mk.inj (Option.some.inj h)
        rw [hc, List.nil_append]
      · cases h

/-- What follows the last separator. -/
def afterLast? (separator : Char) (cs : List Char) : Option (List Char) :=
  (cutAtLast? separator cs).map Prod.snd

/-- A line without the carriage return at its end. -/
def withoutReturn (line : List Char) : List Char :=
  if line.getLast? = some '\r' then line.dropLast else line

/-- The lines of a text to which a line feed is added when it is printed. -/
def lines (s : String) : List String :=
  (pieces '\n' s.toList).map fun line => String.ofList (withoutReturn line)

end BackendMonitor.Text
