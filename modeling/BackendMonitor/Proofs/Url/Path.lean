import BackendMonitor.Proofs.Text.Pieces
import BackendMonitor.Proofs.Text.Utf8
import BackendMonitor.Proofs.Url.Escape
import BackendMonitor.Uri
import BackendMonitor.Url

/-!
# Paths of addresses

What reading makes of the segments of a path. A segment that is no dot segment stays, escaped
(`follow_cons`); however segments go up and down, each one that stands in the path in the end was
there before, is empty, or is escaped from one of them (`mem_drop_follow`). What escaping leaves is
let through on the wire (`isPathChar_of_mem_escape`, `isQueryChar_of_mem_escape`).
-/

namespace BackendMonitor.Url

/-! ## Characters -/

theorem mem_escapeByte {b : UInt8} {c : Char} (h : c ∈ escapeByte b) :
    c = '%' ∨ ∃ n < 16, c = hexDigit n := by
  have hb : b.toNat < 256 := b.toNat_lt
  simp only [escapeByte, List.mem_cons, List.not_mem_nil, or_false] at h
  rcases h with h | h | h
  · exact .inl h
  · exact .inr ⟨_, by omega, h⟩
  · exact .inr ⟨_, by omega, h⟩

/-- What stands in an escaped text is part of an escape, or stands for itself. -/
theorem mem_escape {p : Part} {cs : List Char} {c : Char} (h : c ∈ escape p cs) :
    c = '%' ∨ (∃ n < 16, c = hexDigit n) ∨ c ∈ cs ∧ p.escapes c = false := by
  obtain ⟨a, ha, hc⟩ := List.mem_flatMap.1 h
  cases he : p.escapes a with
  | true =>
    rw [escapeChar_of_escapes he] at hc
    obtain ⟨b, -, hb⟩ := List.mem_flatMap.1 hc
    exact (mem_escapeByte hb).imp_right .inl
  | false =>
    rw [escapeChar_of_not_escapes he, List.mem_singleton] at hc
    subst hc
    exact .inr (.inr ⟨ha, he⟩)

/-- A property of the characters of print holds of an escaped text, if it holds of those that are
not escaped. -/
theorem forall_mem_escape {p : Part} {q : Char → Bool} (cs : List Char) (h : ∀ n < 0x7F, 0x20 ≤ n →
    p.escapes (Char.ofNat n) = false → q (Char.ofNat n) = true) :
    ∀ c ∈ escape p cs, q c = true := by
  have print {c : Char} (hl : 0x20 ≤ c.toNat) (hu : c.toNat < 0x7F) (he : p.escapes c = false) :
      q c = true := by
    have := h c.toNat hu hl
    rw [Char.ofNat_toNat] at this
    exact this he
  have digits : ∀ n < 16, 0x20 ≤ (hexDigit n).toNat ∧ (hexDigit n).toNat < 0x7F ∧
      (Text.hexValue? (hexDigit n)).isSome = true := by decide
  intro c hc
  rcases mem_escape hc with rfl | ⟨n, hn, rfl⟩ | ⟨-, he⟩
  · exact print (by decide) (by decide) (escapes_percent p)
  · obtain ⟨hl, hu, hx⟩ := digits n hn
    exact print hl hu (escapes_of_hexValue? hx)
  · have ho := (Bool.or_eq_false_iff.1 he).1
    rw [isOutsidePrint, Bool.or_eq_false_iff, decide_eq_false_iff_not, decide_eq_false_iff_not] at ho
    exact print (by omega) (by omega) he

theorem isPathChar_of_mem_escape {cs : List Char} {c : Char} (h : c ∈ escape .path cs) :
    Uri.isPathChar c = true :=
  forall_mem_escape cs (by decide) c h

theorem isQueryChar_of_mem_escape {cs : List Char} {c : Char} (h : c ∈ escape .webQuery cs) :
    Uri.isQueryChar c = true :=
  forall_mem_escape cs (by decide) c h

/-- Escaping brings no slashes into a text. -/
theorem slash_notMem_escape {p : Part} {cs : List Char} (h : '/' ∉ cs) : '/' ∉ escape p cs := by
  intro hm
  rcases mem_escape hm with he | ⟨n, hn, he⟩ | ⟨hc, -⟩
  · exact absurd he (by decide)
  · have : ∀ n < 16, '/' ≠ hexDigit n := by decide
    exact this n hn he
  · exact h hc

/-! ## Segments -/

theorem follow_cons {s : List Char} (hd : isDoubleDot s = false) (hs : isDot s = false)
    (above rest : List (List Char)) :
    follow above (s :: rest) = follow (above ++ [escape .path s]) rest := by
  rw [follow, hd, hs]
  rfl

theorem parent_isPrefix (above : List (List Char)) : parent above <+: above := by
  rw [parent]
  split
  · split
    · exact List.prefix_rfl
    · exact List.dropLast_prefix above
  · exact List.prefix_rfl

theorem mem_drop_concat {α : Type} {l : List α} {x y : α} {n : Nat} (h : x ∈ (l ++ [y]).drop n) :
    x ∈ l.drop n ∨ x = y := by
  rw [List.drop_append, List.mem_append] at h
  exact h.imp_right fun h => List.mem_singleton.1 (List.mem_of_mem_drop h)

/-- The segments of a path come from those that are followed. -/
theorem mem_drop_follow {n : Nat} {x : List Char} {above segments : List (List Char)}
    (h : x ∈ (follow above segments).drop n) :
    x ∈ above.drop n ∨ x = [] ∨ ∃ s ∈ segments, x = escape .path s := by
  have up {above : List (List Char)} (h : x ∈ (parent above).drop n) : x ∈ above.drop n :=
    ((parent_isPrefix above).sublist.drop n).subset h
  induction segments generalizing above with
  | nil => exact .inl h
  | cons s rest ih =>
    have hr (hx : x = [] ∨ ∃ s ∈ rest, x = escape .path s) :
        x = [] ∨ ∃ r ∈ s :: rest, x = escape .path r :=
      hx.imp_right fun ⟨r, hr, hx⟩ => ⟨r, List.mem_cons_of_mem _ hr, hx⟩
    rw [follow] at h
    split at h
    · rcases ih h with h | h
      · split at h
        · exact (mem_drop_concat h).imp up .inl
        · exact .inl (up h)
      · exact .inr (hr h)
    · split at h
      · rcases ih h with h | h
        · split at h
          · exact (mem_drop_concat h).imp_right .inl
          · exact .inl h
        · exact .inr (hr h)
      · rcases ih h with h | h
        · exact (mem_drop_concat h).imp_right fun h => .inr ⟨s, List.mem_cons_self, h⟩
        · exact .inr (hr h)

/-! ## Pieces -/

/-- A character as it counts for the pieces of a path of the web. -/
def slashed (c : Char) : Char :=
  if Kind.web.isSlash c then '/' else c

theorem pieces_web (cs : List Char) : pieces .web cs = Text.pieces '/' (cs.map slashed) := rfl

theorem pieces_append_slash (cs ds : List Char) :
    pieces .web (cs ++ '/' :: ds) = pieces .web cs ++ pieces .web ds := by
  rw [pieces_web, List.map_append, List.map_cons]
  exact Text.pieces_append_cons _ _

theorem slash_notMem_map_slashed {cs : List Char} (h : '/' ∉ cs.map slashed) :
    '/' ∉ cs ∧ '\\' ∉ cs :=
  ⟨fun hm => h (List.mem_map.2 ⟨_, hm, rfl⟩), fun hm => h (List.mem_map.2 ⟨_, hm, rfl⟩)⟩

theorem map_slashed_of_notMem {cs : List Char} (h : '\\' ∉ cs) : cs.map slashed = cs := by
  refine (List.map_congr_left fun c hc => ?_).trans (List.map_id cs)
  rw [slashed]
  split
  · next hs =>
    have : c = '/' ∨ c = '\\' := by simpa [Kind.isSlash] using hs
    exact (this.resolve_right fun he => h (he ▸ hc)).symm
  · rfl

/-- A text without slashes of any kind is one piece. -/
theorem pieces_of_notMem {cs : List Char} (hs : '/' ∉ cs) (hb : '\\' ∉ cs) :
    pieces .web cs = [cs] := by
  rw [pieces_web, map_slashed_of_notMem hb, Text.pieces_of_notMem hs]

/-- The segments can be told from the text of a path. -/
theorem segments_eq_of_toText_eq {list list' : List (List Char)} (h : ∀ s ∈ list, '/' ∉ s)
    (h' : ∀ s ∈ list', '/' ∉ s) (ht : (Path.segments list).toText = (Path.segments list').toText) :
    list = list' := by
  have hp := congrArg (Text.pieces '/') ht
  rw [Path.toText, Path.toText, Text.pieces_flatMap h, Text.pieces_flatMap h'] at hp
  exact List.tail_eq_of_cons_eq hp

/-! ## Segments that mean a text -/

theorem length_bytes_le_of_sublist {cs ds : List Char} (h : cs.Sublist ds) :
    (cs.flatMap String.utf8EncodeChar).length ≤ (ds.flatMap String.utf8EncodeChar).length := by
  induction h with
  | slnil => exact Nat.le_refl _
  | cons d h ih =>
    rw [List.flatMap_cons, List.length_append]
    exact Nat.le_add_left_of_le ih
  | cons_cons d h ih =>
    rw [List.flatMap_cons, List.flatMap_cons, List.length_append, List.length_append]
    exact Nat.add_le_add_left ih _

/-- A part of a text with as many bytes is all of it. -/
theorem eq_of_sublist_of_bytes {cs ds : List Char} (h : cs.Sublist ds)
    (hl : (ds.flatMap String.utf8EncodeChar).length ≤
      (cs.flatMap String.utf8EncodeChar).length) : cs = ds := by
  induction h with
  | slnil => rfl
  | cons d h ih =>
    have hd := List.length_pos_iff.2 (Text.Utf8.encode_ne_nil d)
    have hle := length_bytes_le_of_sublist h
    rw [List.flatMap_cons, List.length_append] at hl
    omega
  | cons_cons d h ih =>
    rw [List.flatMap_cons, List.flatMap_cons, List.length_append, List.length_append] at hl
    rw [ih (Nat.le_of_add_le_add_left hl)]

theorem length_bytes_map_slashed (cs : List Char) :
    ((cs.map slashed).flatMap String.utf8EncodeChar).length =
      (cs.flatMap String.utf8EncodeChar).length := by
  have h (c : Char) :
      (String.utf8EncodeChar (slashed c)).length = (String.utf8EncodeChar c).length := by
    rw [slashed]
    split
    · next hs =>
      have : c = '/' ∨ c = '\\' := by simpa [Kind.isSlash] using hs
      rcases this with rfl | rfl <;> rfl
    · rfl
  simp only [List.length_flatMap, List.map_map, Function.comp_def, h]

/-- No piece of a text means all of it, unless the text is one piece and means itself. -/
theorem eq_of_unescape_piece {cs part piece : List Char} (h : part.Sublist cs)
    (hp : piece ∈ pieces .web part) (hu : unescape piece = cs.flatMap String.utf8EncodeChar) :
    part = cs ∧ piece = cs ∧ '/' ∉ cs ∧ '\\' ∉ cs ∧ hasEscape cs = false := by
  have hs : piece.Sublist (part.map slashed) := (Text.isInfix_of_mem_pieces hp).sublist
  have hl := length_unescape_le piece
  rw [hu] at hl
  have he : piece = cs.map slashed :=
    eq_of_sublist_of_bytes (hs.trans (h.map slashed))
      (Nat.le_trans (Nat.le_of_eq (length_bytes_map_slashed cs)) hl)
  obtain ⟨hsl, hb⟩ := slash_notMem_map_slashed (he ▸ Text.notMem_of_mem_pieces hp)
  rw [map_slashed_of_notMem hb] at he
  subst he
  refine ⟨h.eq_of_length_le ?_, rfl, hsl, hb, ?_⟩
  · have := hs.length_le
    rwa [List.length_map] at this
  · cases hn : hasEscape piece with
    | false => rfl
    | true =>
      have := length_unescape_lt hn
      rw [hu] at this
      exact absurd this (Nat.lt_irrefl _)

end BackendMonitor.Url
