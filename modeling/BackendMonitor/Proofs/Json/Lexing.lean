import BackendMonitor.Proofs.Json.Grammar

/-!
# The tokens of what is spelled

What the grammar spells is cut into the tokens that it means, whatever follows. Only behind a number
it matters what follows, since its digits might go on there (`endsNumber`).

* `tokens_blanks`: blanks are no tokens;
* `tokens_quotation`: a text is one token, with the characters that its letters mean;
* `tokens_number`, `tokens_whole`, `tokens_negative`: a number is one token.
-/

namespace BackendMonitor.Json

variable {rest : List Glyph}

/-! ## Blanks and single characters -/

theorem tokens_of_space {g : Glyph} (h : isSpace g = true) (rest : List Glyph) :
    tokens (g :: rest) = tokens rest := by
  rw [tokens_cons, if_pos h]

theorem tokens_of_lexeme {g : Glyph} {t : Token} {rest rest' : List Glyph}
    (h : isSpace g = false) (hl : lexeme g rest = (t, rest')) :
    tokens (g :: rest) = t :: tokens rest' := by
  rw [tokens_cons, if_neg (by rw [h]; exact Bool.false_ne_true), hl]

@[simp] theorem tokens_blanks (b : Blanks) (rest : List Glyph) :
    tokens (b.val.map some ++ rest) = tokens rest := by
  obtain ⟨cs, hcs⟩ := b
  induction cs with
  | nil => rfl
  | cons c cs ih =>
    have hc : isSpace (some c) = true := by
      rcases hcs c List.mem_cons_self with rfl | rfl | rfl | rfl <;> rfl
    exact (tokens_of_space hc _).trans (ih fun c' hc' => hcs c' (List.mem_cons_of_mem _ hc'))

@[simp] theorem tokens_openBrace : tokens (some '\x7b' :: rest) = .openBrace :: tokens rest :=
  tokens_of_lexeme rfl rfl

@[simp] theorem tokens_closeBrace : tokens (some '\x7d' :: rest) = .closeBrace :: tokens rest :=
  tokens_of_lexeme rfl rfl

@[simp] theorem tokens_openBracket : tokens (some '[' :: rest) = .openBracket :: tokens rest :=
  tokens_of_lexeme rfl rfl

@[simp] theorem tokens_closeBracket : tokens (some ']' :: rest) = .closeBracket :: tokens rest :=
  tokens_of_lexeme rfl rfl

@[simp] theorem tokens_comma : tokens (some ',' :: rest) = .comma :: tokens rest :=
  tokens_of_lexeme rfl rfl

@[simp] theorem tokens_colon : tokens (some ':' :: rest) = .colon :: tokens rest :=
  tokens_of_lexeme rfl rfl

theorem tokens_null :
    tokens (['n', 'u', 'l', 'l'].map some ++ rest) = .null :: tokens rest :=
  tokens_of_lexeme rfl rfl

theorem tokens_true :
    tokens (['t', 'r', 'u', 'e'].map some ++ rest) = .bool true :: tokens rest :=
  tokens_of_lexeme rfl rfl

theorem tokens_false :
    tokens (['f', 'a', 'l', 's', 'e'].map some ++ rest) = .bool false :: tokens rest :=
  tokens_of_lexeme rfl rfl

/-! ## Texts -/

namespace Draft

/-- Adds what a letter stands for. -/
def add (d : Draft) : Letter → Draft
  | .plain c _ => d.unpaired.push (some c)
  | .short _ c _ => d.unpaired.push (some c)
  | .unit _ _ _ _ n _ => d.pushUnit n

/-- The letters that follow a draft make a text of these characters, or none that can be kept. -/
def Gives (d : Draft) (t : List Letter) (cs? : Option (List Char)) : Prop :=
  ∃ content, (t.foldl add d).close = .text content ∧ content.toOption = cs?.map String.ofList

/-- A draft that holds these characters, newest last. -/
def ofChars (cs : List Char) : Draft :=
  ⟨.ok (cs.map some).reverse, none⟩

/-- A draft that is spoiled stays so. -/
theorem content_add {d : Draft} {f : Fault} (h : d.content = .error f) (l : Letter) :
    (d.add l).content = .error f := by
  obtain ⟨content, high⟩ := d
  subst h
  cases l with
  | plain | short => cases high <;> rfl
  | unit a b c d n h =>
    cases high with
    | none => simp only [add, pushUnit]; split <;> (try split) <;> rfl
    | some m => simp only [add, pushUnit]; split <;> rfl

theorem gives_none {d : Draft} {f : Fault} (h : d.content = .error f) (t : List Letter) :
    d.Gives t none := by
  induction t generalizing d with
  | nil =>
    obtain ⟨content, high⟩ := d
    subst h
    cases high <;> exact ⟨.error f, rfl, rfl⟩
  | cons l t ih => exact ih (content_add h l)

theorem gives_nil (cs : List Char) : (ofChars cs).Gives [] (some cs) := by
  have h : (cs.map some).mapM id = some cs := by
    induction cs with
    | nil => rfl
    | cons c cs ih => simp [ih]
  refine ⟨.ok (String.ofList cs), ?_, rfl⟩
  simp only [List.foldl_nil, close, unpaired, ofChars, Except.bind, List.reverse_reverse,
    Option.isSome_none, Bool.false_eq_true, if_false, h]

theorem gives_push {cs : List Char} {c : Char} {t : List Letter}
    (h : ∀ cs, (ofChars cs).Gives t ((meaning? t).map (cs ++ ·))) :
    ((ofChars cs).push (some c)).Gives t (((meaning? t).map (c :: ·)).map (cs ++ ·)) := by
  have hp : (ofChars cs).push (some c) = ofChars (cs ++ [c]) := by
    simp [push, ofChars, Except.map]
  simpa [hp, Function.comp_def] using h (cs ++ [c])

/-- The number of a unit begins a pair, or is that of a character. -/
theorem pushUnit_of_none {content : Except Fault (List Glyph)} {n : Nat} :
    pushUnit ⟨content, none⟩ n =
      if isLowHalf n then spoil ⟨content, none⟩ .loneSurrogate
      else if isHighHalf n then ⟨content, some n⟩
      else push ⟨content, none⟩ (some (Char.ofNat n)) := rfl

/-- The number of a unit behind the first half of a pair has to end it. -/
theorem pushUnit_of_some {content : Except Fault (List Glyph)} {high n : Nat} :
    pushUnit ⟨content, some high⟩ n =
      if isLowHalf n then push ⟨content, some high⟩ (some (ofHalves high n))
      else spoil ⟨content, some high⟩ .loneSurrogate := rfl

/-- Letters add the characters that they mean, and spoil what they follow if they mean nothing. -/
theorem gives_meaning (cs : List Char) (t : List Letter) :
    (ofChars cs).Gives t ((meaning? t).map (cs ++ ·)) := by
  fun_induction meaning? t generalizing cs with
  | case1 => simpa using gives_nil cs
  | case2 c h t ih | case3 letter c h t ih => exact gives_push ih
  | case4 a b c d n h t hlow =>
    have hadd : (ofChars cs).add (.unit a b c d n h) = (ofChars cs).spoil .loneSurrogate :=
      pushUnit_of_none.trans (if_pos hlow)
    change ((ofChars cs).add _).Gives t none
    rw [hadd]
    exact gives_none rfl t
  | case5 a b c d n h hlow hhigh a' b' c' d' m h' t hlow' ih =>
    change (((ofChars cs).add _).add _).Gives t _
    simp only [add, ofChars, pushUnit_of_none, if_neg hlow, if_pos hhigh, pushUnit_of_some, if_pos hlow']
    exact gives_push ih
  | case6 a b c d n h hlow hhigh a' b' c' d' m h' t hlow' =>
    change (((ofChars cs).add _).add _).Gives t _
    simp only [add, ofChars, pushUnit_of_none, if_neg hlow, if_pos hhigh, pushUnit_of_some, if_neg hlow']
    exact gives_none rfl t
  | case7 a b c d n h t hlow hhigh hnext =>
    change ((ofChars cs).add _).Gives t none
    simp only [add, ofChars, pushUnit_of_none, if_neg hlow, if_pos hhigh]
    cases t with
    | nil => exact ⟨_, rfl, rfl⟩
    | cons l t =>
      cases l with
      | plain | short => exact gives_none (d := Draft.add _ _) rfl t
      | unit a b c d m h' => exact (hnext a b c d m h' t rfl).elim
  | case8 a b c d n h t hlow hhigh ih =>
    change ((ofChars cs).add _).Gives t _
    simp only [add, ofChars, pushUnit_of_none, if_neg hlow, if_neg hhigh]
    exact gives_push ih

end Draft

theorem quoted_plain {c : Char} (h : c ≠ '"' ∧ c ≠ '\\' ∧ 0x20 ≤ c.toNat) (d : Draft)
    (rest : List Glyph) : quoted d (some c :: rest) = quoted (d.unpaired.push (some c)) rest := by
  obtain ⟨hq, hb, hc⟩ := h
  have hcontrol : isControl (some c) = false := decide_eq_false (Nat.not_lt.2 hc)
  rw [quoted.eq_8, hcontrol, if_neg Bool.false_ne_true] <;> simp_all

theorem quoted_short {letter c : Char} (h : shortEscape? letter = some c) (d : Draft)
    (rest : List Glyph) :
    quoted d (some '\\' :: some letter :: rest) = quoted (d.unpaired.push (some c)) rest := by
  have hu : letter = 'u' → False := by
    rintro rfl
    cases h
  rw [quoted.eq_6 _ _ _ (fun _ _ _ _ _ _ => hu) hu, h]

/-- What stands between quotes is read letter by letter. -/
theorem quoted_letters (d : Draft) (t : List Letter) (rest : List Glyph) :
    quoted d ((t.flatMap Letter.chars).map some ++ some '"' :: rest) =
      ((t.foldl Draft.add d).close, rest) := by
  induction t generalizing d with
  | nil => rw [List.flatMap_nil, List.map_nil, List.nil_append, quoted]; rfl
  | cons l t ih =>
    rw [List.flatMap_cons, List.map_append, List.append_assoc, List.foldl_cons, ← ih]
    cases l with
    | plain c h => exact quoted_plain h d _
    | short letter c h => exact quoted_short h d _
    | unit a b c e n h =>
      refine (quoted.eq_4 d _ _ _ _ _).trans ?_
      rw [h]
      rfl

/-- A text is one token. It can be kept if its letters mean something. -/
theorem tokens_quotation (t : List Letter) :
    ∃ content, (∀ rest, tokens ((quotation t).map some ++ rest) = .text content :: tokens rest) ∧
      content.toOption = (meaning? t).map String.ofList := by
  obtain ⟨content, hc, ho⟩ := Draft.gives_meaning [] t
  refine ⟨content, fun rest => ?_, by simpa using ho⟩
  rw [quotation, List.map_cons, List.map_append, List.cons_append, List.append_assoc, ← hc]
  exact tokens_of_lexeme rfl (quoted_letters ⟨.ok [], none⟩ t rest)

/-! ## Numbers -/

/-- Whether a number ends where `rest` starts. -/
def endsNumber (rest : List Glyph) : Bool :=
  rest.head?.all fun g => !(isDigit g || g == some '.' || g == some 'e' || g == some 'E')

theorem takeDigits_append {cs : List Char} (hcs : ∀ c ∈ cs, c.isDigit = true)
    (h : rest.head?.any isDigit = false) : takeDigits (cs.map some ++ rest) = (cs, rest) := by
  induction cs with
  | nil =>
    cases rest with
    | nil => rfl
    | cons g rest =>
      cases g with
      | none => rfl
      | some c =>
        have hc : c.isDigit = false := h
        simp only [List.map_nil, List.nil_append, takeDigits, hc, Bool.false_eq_true, if_false]
  | cons c cs ih =>
    rw [List.map_cons, List.cons_append, takeDigits, if_pos (hcs c List.mem_cons_self),
      ih fun c' hc' => hcs c' (List.mem_cons_of_mem _ hc')]

theorem any_isDigit_of_endsNumber (h : endsNumber rest = true) :
    rest.head?.any isDigit = false := by
  cases rest with
  | nil => rfl
  | cons g rest => simp_all [endsNumber]

theorem exponent_of_endsNumber (h : endsNumber rest = true) (l : Literal) :
    exponent l rest = (.number l, rest) := by
  cases rest with
  | nil => rfl
  | cons g rest =>
    rw [exponent.eq_3] <;>
    · rintro _ ⟨⟩
      cases h

theorem fraction_of_endsNumber (h : endsNumber rest = true) (l : Literal) :
    fraction l rest = (.number l, rest) := by
  cases rest with
  | nil => rfl
  | cons g rest =>
    rw [fraction.eq_2, exponent_of_endsNumber h]
    rintro _ ⟨⟩
    cases h

theorem exponentPart_eq {sign digits : List Char} (hs : sign = [] ∨ sign = ['+'] ∨ sign = ['-'])
    (hd : IsDigits digits) (l : Literal) :
    ∃ l', ∀ rest, endsNumber rest = true →
      exponentPart l ((sign ++ digits).map some ++ rest) = (.number l', rest) := by
  obtain ⟨hne, hdigits⟩ := hd
  have hempty : digits.isEmpty = false := List.isEmpty_eq_false_iff.2 hne
  have htake {rest : List Glyph} (h : endsNumber rest = true) :
      takeDigits (digits.map some ++ rest) = (digits, rest) :=
    takeDigits_append hdigits (any_isDigit_of_endsNumber h)
  -- Digits are not taken for a sign.
  have hsign : ∀ rest c more, digits.map some ++ rest = some c :: more → c ≠ '-' ∧ c ≠ '+' := by
    rintro rest c more heq
    obtain ⟨c', digits', rfl⟩ := List.exists_cons_of_ne_nil hne
    cases heq
    have hc : c.isDigit = true := hdigits c List.mem_cons_self
    constructor <;> rintro rfl <;> cases hc
  unfold exponentPart
  rcases hs with rfl | rfl | rfl
  · refine ⟨{ l with exponent := some (false, digits) }, fun rest h => ?_⟩
    split
    next minus after heq =>
      split at heq
      · next more hmore => exact absurd rfl (hsign _ _ _ hmore).1
      · next more hmore => exact absurd rfl (hsign _ _ _ hmore).2
      · cases heq
        simp only [List.nil_append, htake h, hempty, Bool.false_eq_true, if_false]
  · refine ⟨{ l with exponent := some (false, digits) }, fun rest h => ?_⟩
    simp only [List.map_cons, List.cons_append, List.nil_append, htake h, hempty,
      Bool.false_eq_true, if_false]
  · refine ⟨{ l with exponent := some (true, digits) }, fun rest h => ?_⟩
    simp only [List.map_cons, List.cons_append, List.nil_append, htake h, hempty,
      Bool.false_eq_true, if_false]

theorem exponent_eq {cs : List Char} (hcs : IsExponent cs) (l : Literal) :
    ∃ l', ∀ rest, endsNumber rest = true → exponent l (cs.map some ++ rest) = (.number l', rest) := by
  cases hcs with
  | none => exact ⟨l, fun rest h => exponent_of_endsNumber h l⟩
  | some hm hs hd =>
    obtain ⟨l', hl⟩ := exponentPart_eq hs hd l
    refine ⟨l', fun rest h => ?_⟩
    rcases hm with rfl | rfl <;> exact hl rest h

/-- Digits end where an exponent may follow. -/
theorem any_isDigit_of_exponent {cs : List Char} (hcs : IsExponent cs) (h : endsNumber rest = true) :
    (cs.map some ++ rest).head?.any isDigit = false := by
  cases hcs with
  | none => exact any_isDigit_of_endsNumber h
  | some hm hs hd => rcases hm with rfl | rfl <;> rfl

theorem fraction_eq {cs cs' : List Char} (hcs : IsFraction cs) (hcs' : IsExponent cs')
    (l : Literal) :
    ∃ l', ∀ rest, endsNumber rest = true →
      fraction l (cs.map some ++ (cs'.map some ++ rest)) = (.number l', rest) := by
  cases hcs with
  | none =>
    obtain ⟨l', hl⟩ := exponent_eq hcs' l
    refine ⟨l', fun rest h => ?_⟩
    rw [List.map_nil, List.nil_append, fraction.eq_2, hl rest h]
    intro more hmore
    cases hcs' with
    | none =>
      rw [List.map_nil, List.nil_append] at hmore
      rw [hmore] at h
      cases h
    | some hm hs hd =>
      rcases hm with rfl | rfl <;> cases hmore
  | @some digits hd =>
    obtain ⟨hne, hdigits⟩ := hd
    have hempty : digits.isEmpty = false := List.isEmpty_eq_false_iff.2 hne
    obtain ⟨l', hl⟩ := exponent_eq hcs' { l with fraction := digits }
    refine ⟨l', fun rest h => ?_⟩
    have htake := takeDigits_append hdigits (any_isDigit_of_exponent hcs' h)
    rw [List.map_cons, List.cons_append, fraction, htake]
    simp only [hempty, Bool.false_eq_true, if_false, hl rest h]

/-- Digits end where a fraction may follow. -/
theorem any_isDigit_of_fraction {cs cs' : List Char} (hcs : IsFraction cs) (hcs' : IsExponent cs')
    (h : endsNumber rest = true) :
    (cs.map some ++ (cs'.map some ++ rest)).head?.any isDigit = false := by
  cases hcs with
  | none =>
    rw [List.map_nil, List.nil_append]
    exact any_isDigit_of_exponent hcs' h
  | some hd => rfl

theorem number_whole {cs : List Char} (hcs : IsWhole cs) (h : rest.head?.any isDigit = false)
    (negative : Bool) :
    number negative (cs.map some ++ rest) = fraction ⟨negative, cs, [], none⟩ rest := by
  obtain ⟨⟨hne, hdigits⟩, hzero⟩ := hcs
  rw [number, takeDigits_append hdigits h]
  dsimp only
  split
  · exact absurd rfl hne
  · cases hzero rfl
  · rfl

theorem lexeme_digit {c : Char} (h : c.isDigit = true) (rest : List Glyph) :
    lexeme (some c) rest = number false (some c :: rest) := by
  unfold lexeme
  split
  case h_12 => exact if_pos h
  all_goals next heq => cases heq; cases h

theorem isSpace_digit {c : Char} (h : c.isDigit = true) : isSpace (some c) = false := by
  have hne (c' : Char) (h' : c'.isDigit = false) : (c == c') = false := by
    rw [beq_eq_false_iff_ne]
    rintro rfl
    rw [h] at h'
    cases h'
  simp only [isSpace, hne ' ' rfl, hne '\t' rfl, hne '\n' rfl, hne '\r' rfl, Bool.or_self]

/-- A number without a sign is read from its first digit on. -/
theorem tokens_unsigned {cs : List Char} {rest' : List Glyph} {t : Token} (hcs : IsDigits cs)
    (h : number false (cs.map some ++ rest) = (t, rest')) :
    tokens (cs.map some ++ rest) = t :: tokens rest' := by
  obtain ⟨hne, hdigits⟩ := hcs
  obtain ⟨c, cs', rfl⟩ := List.exists_cons_of_ne_nil hne
  have hc : c.isDigit = true := hdigits c List.mem_cons_self
  exact tokens_of_lexeme (isSpace_digit hc) ((lexeme_digit hc _).trans h)

/-- A number is one token, whatever follows that does not go on with it. -/
theorem tokens_number {cs : List Char} (hcs : IsNumber cs) :
    ∃ l, ∀ rest, endsNumber rest = true →
      tokens (cs.map some ++ rest) = .number l :: tokens rest := by
  obtain @⟨sign, whole, fraction, exponent, hs, hw, hf, he⟩ := hcs
  have hnumber (negative : Bool) : ∃ l, ∀ rest, endsNumber rest = true → number negative
      (whole.map some ++ (fraction.map some ++ (exponent.map some ++ rest))) = (.number l, rest) := by
    obtain ⟨l, hl⟩ := fraction_eq hf he ⟨negative, whole, [], none⟩
    exact ⟨l, fun rest h =>
      (number_whole hw (any_isDigit_of_fraction hf he h) negative).trans (hl rest h)⟩
  simp only [List.map_append, List.append_assoc]
  rcases hs with rfl | rfl
  · obtain ⟨l, hl⟩ := hnumber false
    refine ⟨l, fun rest h => ?_⟩
    rw [List.map_nil, List.nil_append]
    exact tokens_unsigned hw.1 (hl rest h)
  · obtain ⟨l, hl⟩ := hnumber true
    exact ⟨l, fun rest h => tokens_of_lexeme rfl (hl rest h)⟩

/-- Digits are the number that they make. -/
theorem tokens_whole {cs : List Char} (hcs : IsWhole cs) (h : endsNumber rest = true) :
    tokens (cs.map some ++ rest) = .number ⟨false, cs, [], none⟩ :: tokens rest :=
  tokens_unsigned hcs.1
    ((number_whole hcs (any_isDigit_of_endsNumber h) false).trans (fraction_of_endsNumber h _))

/-- Digits behind a minus are the number that they make, with this sign. -/
theorem tokens_negative {cs : List Char} (hcs : IsWhole cs) (h : endsNumber rest = true) :
    tokens (('-' :: cs).map some ++ rest) = .number ⟨true, cs, [], none⟩ :: tokens rest :=
  tokens_of_lexeme rfl
    ((number_whole hcs (any_isDigit_of_endsNumber h) true).trans (fraction_of_endsNumber h _))

end BackendMonitor.Json
