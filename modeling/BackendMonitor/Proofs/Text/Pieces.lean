import BackendMonitor.Text.Pieces

/-!
# Pieces of a text

Cutting at a separator undoes putting pieces together (`pieces_flatMap`), texts that are put behind
each other with a separator between them are cut one by one (`pieces_append_cons`), and a piece is a
part of the text in which the separator does not stand (`notMem_of_mem_pieces`,
`isInfix_of_mem_pieces`).
-/

namespace BackendMonitor.Text

variable {separator : Char}

theorem pieces_of_notMem {cs : List Char} (h : separator ∉ cs) : pieces separator cs = [cs] := by
  induction cs with
  | nil => rfl
  | cons c cs ih =>
    rw [List.mem_cons, not_or] at h
    rw [pieces, if_neg (Ne.symm h.1), ih h.2]

/-- Two texts with a separator between them. -/
theorem pieces_append_cons (cs ds : List Char) :
    pieces separator (cs ++ separator :: ds) = pieces separator cs ++ pieces separator ds := by
  induction cs with
  | nil =>
    show pieces separator (separator :: ds) = [] :: pieces separator ds
    rw [pieces, if_pos rfl]
  | cons c cs ih =>
    rw [List.cons_append, pieces, pieces, ih]
    split
    · rfl
    · cases hp : pieces separator cs with
      | nil => exact absurd hp (pieces_ne_nil separator cs)
      | cons piece more => rfl

theorem pieces_cons_of_ne {c : Char} (h : c ≠ separator) (cs : List Char) :
    ∃ piece more, pieces separator cs = piece :: more ∧
      pieces separator (c :: cs) = (c :: piece) :: more := by
  cases hp : pieces separator cs with
  | nil => exact absurd hp (pieces_ne_nil separator cs)
  | cons piece more => exact ⟨piece, more, rfl, by rw [pieces, if_neg h, hp]⟩

theorem notMem_of_mem_pieces {cs piece : List Char} (h : piece ∈ pieces separator cs) :
    separator ∉ piece := by
  induction cs generalizing piece with
  | nil => cases List.mem_singleton.1 h; exact List.not_mem_nil
  | cons c cs ih =>
    by_cases hc : c = separator
    · rw [pieces, if_pos hc] at h
      rcases List.mem_cons.1 h with rfl | h
      · exact List.not_mem_nil
      · exact ih h
    · obtain ⟨first, more, hp, hp'⟩ := pieces_cons_of_ne hc cs
      rw [hp] at ih
      rw [hp'] at h
      rcases List.mem_cons.1 h with rfl | h
      · rw [List.mem_cons, not_or]
        exact ⟨Ne.symm hc, ih List.mem_cons_self⟩
      · exact ih (List.mem_cons_of_mem _ h)

/-- The first piece is a start of the text, and every piece is a part of it. -/
theorem isPrefix_head_pieces {cs first : List Char} {more : List (List Char)}
    (h : pieces separator cs = first :: more) : first <+: cs := by
  induction cs generalizing first more with
  | nil => cases h; exact List.prefix_rfl
  | cons c cs ih =>
    by_cases hc : c = separator
    · rw [pieces, if_pos hc] at h
      cases h
      exact List.nil_prefix
    · obtain ⟨piece, rest, hp, hp'⟩ := pieces_cons_of_ne hc cs
      rw [hp'] at h
      cases h
      exact List.cons_prefix_cons.2 ⟨rfl, ih hp⟩

theorem isInfix_of_mem_pieces {cs piece : List Char} (h : piece ∈ pieces separator cs) :
    piece <:+: cs := by
  induction cs with
  | nil => cases List.mem_singleton.1 h; exact List.infix_rfl
  | cons c cs ih =>
    by_cases hc : c = separator
    · rw [pieces, if_pos hc] at h
      rcases List.mem_cons.1 h with rfl | h
      · exact List.nil_infix
      · exact (ih h).trans (List.suffix_cons c cs).isInfix
    · obtain ⟨first, more, hp, hp'⟩ := pieces_cons_of_ne hc cs
      rw [hp] at ih
      rw [hp'] at h
      rcases List.mem_cons.1 h with rfl | h
      · exact (isPrefix_head_pieces hp').isInfix
      · exact (ih (List.mem_cons_of_mem _ h)).trans (List.suffix_cons c cs).isInfix

/-- Pieces with a separator before each of them come out again, behind an empty one. -/
theorem pieces_flatMap {list : List (List Char)} (h : ∀ piece ∈ list, separator ∉ piece) :
    pieces separator (list.flatMap (separator :: ·)) = [] :: list := by
  induction list with
  | nil => rfl
  | cons piece list ih =>
    have ih := ih fun p hp => h p (List.mem_cons_of_mem _ hp)
    rw [List.flatMap_cons, List.cons_append, pieces, if_pos rfl]
    cases list with
    | nil => rw [List.flatMap_nil, List.append_nil, pieces_of_notMem (h piece List.mem_cons_self)]
    | cons next list =>
      rw [List.flatMap_cons, List.cons_append] at ih ⊢
      rw [pieces, if_pos rfl, List.cons.injEq] at ih
      rw [pieces_append_cons, pieces_of_notMem (h piece List.mem_cons_self), ih.2]
      rfl

end BackendMonitor.Text
