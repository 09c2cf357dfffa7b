import BackendMonitor.Json.Reader
import BackendMonitor.Proofs.Json.Lexing

/-!
# Values that are passed over

* `skip_spelling`: whatever is spelled as a value, of any kind and depth, and with blanks around it, is
  passed over up to its end;
* `length_lt_of_skip`: to pass over a value takes at least one token.
-/

namespace BackendMonitor.Json

variable {rest : List Glyph} {stack : List Bracket} {expect : Expect}

/-! ## What ends a number -/

theorem endsNumber_blanks (b : Blanks) (h : endsNumber rest = true) :
    endsNumber (b.val.map some ++ rest) = true := by
  obtain ⟨cs, hcs⟩ := b
  cases cs with
  | nil => exact h
  | cons c cs => rcases hcs c List.mem_cons_self with rfl | rfl | rfl | rfl <;> rfl

/-- Parts of a container are followed by a comma or by the end of the container. -/
theorem endsNumber_flatMap (xs : List (List Char)) (h : endsNumber rest = true) :
    endsNumber ((xs.flatMap (',' :: ·)).map some ++ rest) = true := by
  cases xs with
  | nil => exact h
  | cons x xs => rfl

/-! ## Single tokens -/

/-- Goes on behind a value that was passed. -/
def resume (stack : List Bracket) (ts : List Token) : Except Fault (List Token) :=
  match stack with
  | [] => .ok ts
  | stack => skipTokens .separator stack ts

/-- Whether a value may come next. -/
def Expect.isValue : Expect → Bool
  | .value | .firstElement | .element => true
  | _ => false

theorem skipTokens_of_passed {t : Token} {outer : List Bracket}
    (h : skipToken expect stack t = .ok (passed outer)) (ts : List Token) :
    skipTokens expect stack (t :: ts) = resume outer ts := by
  rw [skipTokens, h]
  cases outer <;> rfl

theorem skipTokens_of_more {t : Token} {expect' : Expect} {stack' : List Bracket}
    (h : skipToken expect stack t = .ok (.more expect' stack')) (ts : List Token) :
    skipTokens expect stack (t :: ts) = skipTokens expect' stack' ts := by
  rw [skipTokens, h]

/-- Where a value may come, the token that starts it is passed as one. -/
theorem skipToken_of_isValue (h : expect.isValue = true) {t : Token} (ht : t ≠ .closeBracket) :
    skipToken expect stack t = skipValue stack t := by
  cases expect with
  | value | element => rfl
  | firstElement =>
    cases t with
    | closeBracket => exact absurd rfl ht
    | _ => rfl
  | _ => cases h

/-! ## Values -/

/-- A spelling is passed over, whatever follows that does not go on with a number. -/
def Spelling.IsPassed (v : Spelling) : Prop :=
  ∀ expect stack rest, expect.isValue = true → endsNumber rest = true →
    skipTokens expect stack (tokens (v.chars.map some ++ rest)) = resume stack (tokens rest)

/-- The parts of a container are passed, up to its end, if each of them is. -/
theorem skip_listed {bracket : Bracket} {first next : Expect} {close : Char} {last : Token}
    (hcomma : skipToken .separator (bracket :: stack) .comma = .ok (.more next (bracket :: stack)))
    (hlast : tokens (some close :: rest) = last :: tokens rest)
    (hclose : endsNumber (some close :: rest) = true)
    (hends : ∀ expect, expect = first ∨ expect = .separator →
      skipToken expect (bracket :: stack) last = .ok (passed stack))
    {xs : List (List Char)}
    (hxs : ∀ x ∈ xs, ∀ expect, expect = first ∨ expect = next → ∀ more, endsNumber more = true →
      skipTokens expect (bracket :: stack) (tokens (x.map some ++ more)) =
        skipTokens .separator (bracket :: stack) (tokens more))
    (blank : Blanks) :
    skipTokens first (bracket :: stack)
        (tokens ((listed blank xs).map some ++ some close :: rest)) =
      resume stack (tokens rest) := by
  have further {xs : List (List Char)}
      (hxs : ∀ x ∈ xs, ∀ more, endsNumber more = true →
        skipTokens next (bracket :: stack) (tokens (x.map some ++ more)) =
          skipTokens .separator (bracket :: stack) (tokens more)) :
      skipTokens .separator (bracket :: stack)
          (tokens ((xs.flatMap (',' :: ·)).map some ++ some close :: rest)) =
        resume stack (tokens rest) := by
    induction xs with
    | nil =>
      rw [List.flatMap_nil, List.map_nil, List.nil_append, hlast]
      exact skipTokens_of_passed (hends _ (.inr rfl)) _
    | cons x xs ih =>
      simp only [List.flatMap_cons, List.cons_append, List.map_cons, List.map_append,
        List.append_assoc, tokens_comma]
      rw [skipTokens_of_more hcomma, hxs x List.mem_cons_self _ (endsNumber_flatMap xs hclose)]
      exact ih fun x hx => hxs x (List.mem_cons_of_mem _ hx)
  cases xs with
  | nil =>
    rw [listed, tokens_blanks, hlast]
    exact skipTokens_of_passed (hends _ (.inl rfl)) _
  | cons x xs =>
    rw [listed, List.map_append, List.append_assoc,
      hxs x List.mem_cons_self first (.inl rfl) _ (endsNumber_flatMap xs hclose)]
    exact further fun x hx => hxs x (List.mem_cons_of_mem _ hx) next (.inr rfl)

theorem skip_item {i : Item Spelling} (h : i.value.IsPassed) (he : expect.isValue = true)
    (hrest : endsNumber rest = true) :
    skipTokens expect stack (tokens (i.chars.map some ++ rest)) = resume stack (tokens rest) := by
  simp only [Item.chars, List.map_append, List.append_assoc, tokens_blanks]
  rw [h expect stack _ he (endsNumber_blanks i.after hrest), tokens_blanks]

/-- A member is passed, with whatever letters its key is spelled. -/
theorem skip_entry {m : Member} (h : m.value.IsPassed) (he : expect = .firstKey ∨ expect = .key)
    (hrest : endsNumber rest = true) :
    skipTokens expect (.curly :: stack) (tokens (m.chars.map some ++ rest)) =
      skipTokens .separator (.curly :: stack) (tokens rest) := by
  simp only [Entry.chars, List.map_append, List.map_cons, List.append_assoc, List.cons_append,
    tokens_blanks]
  obtain ⟨content, hkey, -⟩ := tokens_quotation m.key
  have hcolon : skipToken expect (.curly :: stack) (.text content) =
      .ok (.more .colon (.curly :: stack)) := by
    rcases he with rfl | rfl <;> rfl
  have hvalue : skipToken .colon (.curly :: stack) .colon = .ok (.more .value (.curly :: stack)) := rfl
  rw [hkey, skipTokens_of_more hcolon, tokens_blanks, tokens_colon, skipTokens_of_more hvalue]
  exact skip_item h rfl hrest

/-- A value of one token leaves what is open as it is. -/
theorem Spelling.isPassed_of_token {v : Spelling}
    (h : ∀ rest, endsNumber rest = true → ∃ t, tokens (v.chars.map some ++ rest) = t :: tokens rest ∧
      t ≠ .closeBracket ∧ ∀ stack, skipValue stack t = .ok (passed stack)) : v.IsPassed := by
  intro expect stack rest he hrest
  obtain ⟨t, ht, hne, hskip⟩ := h rest hrest
  rw [ht]
  exact skipTokens_of_passed ((skipToken_of_isValue he hne).trans (hskip stack)) _

theorem Spelling.isPassed (v : Spelling) : v.IsPassed := by
  induction v with
  | null => exact isPassed_of_token fun rest _ => ⟨_, tokens_null, nofun, fun _ => rfl⟩
  | bool b =>
    cases b with
    | true => exact isPassed_of_token fun rest _ => ⟨_, tokens_true, nofun, fun _ => rfl⟩
    | false => exact isPassed_of_token fun rest _ => ⟨_, tokens_false, nofun, fun _ => rfl⟩
  | number cs h =>
    obtain ⟨l, hl⟩ := tokens_number h
    exact isPassed_of_token fun rest hrest => ⟨_, hl rest hrest, nofun, fun _ => rfl⟩
  | text t =>
    obtain ⟨content, hc, -⟩ := tokens_quotation t
    exact isPassed_of_token fun rest _ => ⟨_, hc rest, nofun, fun _ => rfl⟩
  | array blank items ih =>
    intro expect stack rest he hrest
    rw [chars_array, List.map_cons, List.map_append, List.cons_append, List.append_assoc,
      tokens_openBracket,
      skipTokens_of_more (skipToken_of_isValue (t := .openBracket) he nofun)]
    have hcomma : skipToken .separator (.square :: stack) .comma =
        .ok (.more .element (.square :: stack)) := rfl
    refine skip_listed hcomma tokens_closeBracket rfl ?_ ?_ blank
    · rintro expect (rfl | rfl) <;> rfl
    · intro x hx expect he more hmore
      obtain ⟨i, hi, rfl⟩ := List.mem_map.1 hx
      exact skip_item (ih i hi) (by rcases he with rfl | rfl <;> rfl) hmore
  | object blank members ih =>
    intro expect stack rest he hrest
    rw [chars_object, List.map_cons, List.map_append, List.cons_append, List.append_assoc,
      tokens_openBrace, skipTokens_of_more (skipToken_of_isValue (t := .openBrace) he nofun)]
    have hcomma : skipToken .separator (.curly :: stack) .comma =
        .ok (.more .key (.curly :: stack)) := rfl
    refine skip_listed hcomma tokens_closeBrace rfl ?_ ?_ blank
    · rintro expect (rfl | rfl) <;> rfl
    · intro x hx expect he more hmore
      obtain ⟨m, hm, rfl⟩ := List.mem_map.1 hx
      exact skip_entry (ih m hm) he hmore

theorem skip_spelling (i : Item Spelling) (h : endsNumber rest = true) :
    skip (tokens (i.chars.map some ++ rest)) = .ok (tokens rest) :=
  skip_item i.value.isPassed rfl h

/-! ## Lengths -/

theorem length_lt_of_skipTokens {ts ts' : List Token} (h : skipTokens expect stack ts = .ok ts') :
    ts'.length < ts.length := by
  induction ts generalizing expect stack with
  | nil => cases h
  | cons t ts ih =>
    rw [skipTokens] at h
    split at h
    · cases h
    · cases h
      exact Nat.lt_succ_self _
    · exact Nat.lt_succ_of_lt (ih h)

theorem length_lt_of_skip {ts ts' : List Token} (h : skip ts = .ok ts') : ts'.length < ts.length :=
  length_lt_of_skipTokens h

end BackendMonitor.Json
