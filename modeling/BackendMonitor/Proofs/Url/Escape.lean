import BackendMonitor.Url.Escape

/-!
# What escapes mean

Escaping a text for a part of an address does not change what it means (`unescape_escape`). What a
text means is the text itself just when no percent sign stands before two digits in it; otherwise it
is shorter (`unescape_of_plain`, `length_unescape_lt`).
-/

namespace BackendMonitor.Url

open Text (hexValue?)

/-- Whether a text starts with two digits of base 16. -/
def startsWithDigits : List Char → Bool
  | a :: b :: _ => (hexValue? a).isSome && (hexValue? b).isSome
  | _ => false

/-- Whether a percent sign stands before two digits of base 16 somewhere in a text. -/
def hasEscape : List Char → Bool
  | [] => false
  | c :: cs => c = '%' && startsWithDigits cs || hasEscape cs

/-! ## Digits -/

theorem hexValue?_hexDigit {n : Nat} (h : n < 16) : hexValue? (hexDigit n) = some n := by
  revert n
  decide

/-- A digit of base 16 stands for itself in every part. -/
theorem escapes_of_hexValue? {p : Part} {c : Char} (h : (hexValue? c).isSome = true) :
    p.escapes c = false := by
  have hr : p.reserved.all (hexValue? · = none) = true := by cases p <;> decide
  have hc : ¬ (c.toNat < 0x20 ∨ 0x7E < c.toNat) := by
    intro hn
    rw [hexValue?] at h
    simp only [Bool.and_eq_true, decide_eq_true_eq] at h
    split at h
    · omega
    · split at h
      · omega
      · split at h
        · omega
        · cases h
  rw [Part.escapes, Bool.or_eq_false_iff]
  refine ⟨by simpa [isOutsidePrint] using hc, ?_⟩
  rw [List.contains_eq_mem, decide_eq_false_iff_not]
  intro hm
  have hn : hexValue? c = none := of_decide_eq_true (List.all_eq_true.1 hr c hm)
  rw [hn] at h
  cases h

theorem escapes_percent (p : Part) : p.escapes '%' = false := by
  cases p <;> decide

theorem escapeChar_of_escapes {p : Part} {c : Char} (h : p.escapes c = true) :
    escapeChar p c = (String.utf8EncodeChar c).flatMap escapeByte :=
  if_pos h

theorem escapeChar_of_not_escapes {p : Part} {c : Char} (h : p.escapes c = false) :
    escapeChar p c = [c] :=
  if_neg (by rw [h]; exact Bool.false_ne_true)

theorem escape_cons (p : Part) (c : Char) (cs : List Char) :
    escape p (c :: cs) = escapeChar p c ++ escape p cs := rfl

/-! ## Reading escapes -/

theorem unescape_nil : unescape [] = [] := by
  rw [unescape]

theorem unescape_cons_of_ne {c : Char} (h : c ≠ '%') (cs : List Char) :
    unescape (c :: cs) = String.utf8EncodeChar c ++ unescape cs := by
  rw [unescape]
  rintro a b rest rfl
  exact absurd rfl h

theorem unescape_digits {a b : Char} {x y : Nat} (ha : hexValue? a = some x)
    (hb : hexValue? b = some y) (cs : List Char) :
    unescape ('%' :: a :: b :: cs) = UInt8.ofNat (16 * x + y) :: unescape cs := by
  rw [unescape, ha, hb]

/-- A percent sign that does not stand before two digits means itself. -/
theorem unescape_percent {cs : List Char} (h : startsWithDigits cs = false) :
    unescape ('%' :: cs) = 0x25 :: unescape cs := by
  rcases cs with _ | ⟨a, _ | ⟨b, rest⟩⟩
  · rw [unescape_nil, unescape, unescape_nil]
    · rfl
    · rintro a b rest - ⟨⟩
  · rw [unescape]
    · rfl
    · rintro a b rest - ⟨⟩
  · rw [unescape]
    split
    · next ha hb => simp [startsWithDigits, ha, hb] at h
    · rfl

theorem unescape_escapeByte (b : UInt8) (cs : List Char) :
    unescape (escapeByte b ++ cs) = b :: unescape cs := by
  have hb : b.toNat < 256 := b.toNat_lt
  have hx := hexValue?_hexDigit (show b.toNat / 16 < 16 by omega)
  have hy := hexValue?_hexDigit (show b.toNat % 16 < 16 by omega)
  rw [escapeByte, List.cons_append, List.cons_append, List.cons_append, List.nil_append,
    unescape_digits hx hy, Nat.div_add_mod, UInt8.ofNat_toNat]

theorem unescape_escapeBytes (bs : List UInt8) (cs : List Char) :
    unescape (bs.flatMap escapeByte ++ cs) = bs ++ unescape cs := by
  induction bs with
  | nil => rfl
  | cons b bs ih =>
    rw [List.flatMap_cons, List.append_assoc, unescape_escapeByte, ih, List.cons_append]

theorem unescape_escapeChar {c : Char} (h : c ≠ '%') (p : Part) (cs : List Char) :
    unescape (escapeChar p c ++ cs) = String.utf8EncodeChar c ++ unescape cs := by
  cases he : p.escapes c with
  | true => rw [escapeChar_of_escapes he, unescape_escapeBytes]
  | false => rw [escapeChar_of_not_escapes he]; exact unescape_cons_of_ne h cs

/-- What a character is escaped to starts with a digit just when the character is one. -/
theorem startsWithDigits_escape (p : Part) (cs : List Char) :
    startsWithDigits (escape p cs) = startsWithDigits cs := by
  have head (c : Char) : ∃ d ds, escapeChar p c = d :: ds ∧
      (hexValue? d).isSome = (hexValue? c).isSome ∧ ((hexValue? c).isSome = true → ds = []) := by
    cases he : p.escapes c with
    | true =>
      have hn : (hexValue? c).isSome = false :=
        Bool.eq_false_iff.2 fun h => Bool.false_ne_true ((escapes_of_hexValue? h).symm.trans he)
      rw [escapeChar_of_escapes he]
      cases hb : String.utf8EncodeChar c with
      | nil =>
        have := congrArg List.length hb
        rw [String.length_utf8EncodeChar] at this
        exact absurd this (Nat.ne_of_gt c.utf8Size_pos)
      | cons b bs => exact ⟨'%', _, rfl, by rw [hn]; rfl, fun h => by rw [hn] at h; cases h⟩
    | false => exact ⟨c, [], escapeChar_of_not_escapes he, rfl, fun _ => rfl⟩
  rcases cs with _ | ⟨a, cs⟩
  · rfl
  · obtain ⟨a', as, ha, hx, hs⟩ := head a
    rw [escape_cons, ha, List.cons_append]
    cases hd : (hexValue? a).isSome with
    | false =>
      rw [hd] at hx
      have h : ∀ ds, startsWithDigits (a' :: ds) = false := by
        rintro (_ | ⟨d, ds⟩)
        · rfl
        · rw [startsWithDigits, hx]; rfl
      rw [h]
      rcases cs with _ | ⟨b, cs⟩
      · rfl
      · rw [startsWithDigits, hd]; rfl
    | true =>
      rw [hs hd, List.nil_append]
      rcases cs with _ | ⟨b, cs⟩
      · rfl
      · obtain ⟨b', bs, hb, hy, -⟩ := head b
        rw [escape_cons, hb, List.cons_append, startsWithDigits, startsWithDigits, hx, hy]

/-- Escaping does not change what a text means. -/
theorem unescape_escape (p : Part) (cs : List Char) : unescape (escape p cs) = unescape cs := by
  have percent (cs : List Char) : escape p ('%' :: cs) = '%' :: escape p cs := by
    rw [escape_cons, escapeChar_of_not_escapes (escapes_percent p)]
    rfl
  have digit {c : Char} {x : Nat} (h : hexValue? c = some x) (cs : List Char) :
      escape p (c :: cs) = c :: escape p cs := by
    rw [escape_cons, escapeChar_of_not_escapes (escapes_of_hexValue? (by rw [h]; rfl))]
    rfl
  fun_induction unescape cs with
  | case1 => exact unescape_nil
  | case2 a b rest x y hy hx ih =>
    rw [percent, digit hx, digit hy, unescape_digits hx hy, ih]
  | case3 a b rest hn ih =>
    rw [percent, unescape_percent, ih]
    rw [startsWithDigits_escape, startsWithDigits]
    cases hx : hexValue? a with
    | none => rfl
    | some x =>
      cases hy : hexValue? b with
      | none => rfl
      | some y => exact (hn x y hx hy).elim
  | case4 c rest hn ih =>
    by_cases hc : c = '%'
    · subst hc
      have hs : startsWithDigits rest = false := by
        rcases rest with _ | ⟨a, _ | ⟨b, rest⟩⟩
        · rfl
        · rfl
        · exact (hn a b rest rfl rfl).elim
      rw [percent, unescape_percent (by rw [startsWithDigits_escape, hs]), ih]
      rfl
    · rw [escape_cons, unescape_escapeChar hc, ih]

/-! ## Texts that mean themselves -/

theorem unescape_of_plain {cs : List Char} (h : hasEscape cs = false) :
    unescape cs = cs.flatMap String.utf8EncodeChar := by
  induction cs with
  | nil => exact unescape_nil
  | cons c cs ih =>
    obtain ⟨hc, hcs⟩ := Bool.or_eq_false_iff.1 h
    by_cases he : c = '%'
    · subst he
      rw [unescape_percent (by simpa using hc), ih hcs]
      rfl
    · rw [unescape_cons_of_ne he, ih hcs, List.flatMap_cons]

theorem length_unescape_le (cs : List Char) :
    (unescape cs).length ≤ (cs.flatMap String.utf8EncodeChar).length := by
  have pos (c : Char) : 0 < (String.utf8EncodeChar c).length := by
    rw [String.length_utf8EncodeChar]
    exact c.utf8Size_pos
  fun_induction unescape cs with
  | case1 => exact Nat.le_refl _
  | case2 a b rest x y hy hx ih =>
    have hp := pos '%'
    simp only [List.flatMap_cons, List.length_append, List.length_cons]
    omega
  | case3 a b rest hn ih =>
    have hp := pos '%'
    simp only [List.flatMap_cons, List.length_append, List.length_cons] at ih ⊢
    omega
  | case4 c rest hn ih =>
    simp only [List.flatMap_cons, List.length_append]
    omega

/-- A text with an escape means something shorter than itself. -/
theorem length_unescape_lt {cs : List Char} (h : hasEscape cs = true) :
    (unescape cs).length < (cs.flatMap String.utf8EncodeChar).length := by
  have pos (c : Char) : 0 < (String.utf8EncodeChar c).length := by
    rw [String.length_utf8EncodeChar]
    exact c.utf8Size_pos
  induction cs with
  | nil => cases h
  | cons c cs ih =>
    by_cases hs : c = '%' ∧ startsWithDigits cs = true
    · obtain ⟨rfl, hs⟩ := hs
      obtain ⟨a, b, rest, rfl⟩ : ∃ a b rest, cs = a :: b :: rest := by
        rcases cs with _ | ⟨a, _ | ⟨b, rest⟩⟩
        · cases hs
        · cases hs
        · exact ⟨a, b, rest, rfl⟩
      obtain ⟨ha, hb⟩ := Bool.and_eq_true_iff.1 hs
      obtain ⟨x, hx⟩ := Option.isSome_iff_exists.1 ha
      obtain ⟨y, hy⟩ := Option.isSome_iff_exists.1 hb
      have hp := pos '%'
      have ha := pos a
      have hl := length_unescape_le rest
      rw [unescape_digits hx hy]
      simp only [List.flatMap_cons, List.length_append, List.length_cons]
      omega
    · have hcs : hasEscape cs = true := by
        rw [hasEscape, Bool.or_eq_true, Bool.and_eq_true, decide_eq_true_eq] at h
        exact h.resolve_left hs
      have ih := ih hcs
      by_cases hc : c = '%'
      · subst hc
        rw [unescape_percent (Bool.eq_false_iff.2 fun hd => hs ⟨rfl, hd⟩)]
        have hp := pos '%'
        simp only [List.flatMap_cons, List.length_append, List.length_cons]
        omega
      · rw [unescape_cons_of_ne hc]
        simp only [List.flatMap_cons, List.length_append]
        omega

end BackendMonitor.Url
