import BackendMonitor.Proofs.Json.Reading
import BackendMonitor.Proofs.Json.Values
import BackendMonitor.Proofs.Json.Writing

/-!
# Values that are written and read back

Whatever was read is written in a spelling that means the same value again. This is known of whole
numbers; of floating point numbers, which are rounded when they are read, it has to be said
(`Number.ReadsBack`).

* `isNumber_of_write?`: a floating point number is written as the grammar asks;
* `readsBack_of_literal`: a whole number that was read is written as it is read;
* `Value.spelling`: the spelling in which a value is written;
* `Value.value?_spelling`: a value that was read is what its spelling means;
* `Value.text_object`: an object that is written is a document.
-/

namespace BackendMonitor.Json

/-! ## Floating point numbers -/

theorem isDigits_digitsOf (n : Nat) : IsDigits (Decimal.digitsOf n) :=
  (isWhole_digitsOf n).1

/-- The digits of a number that is not zero do not begin with a zero. -/
theorem head?_digitsOf_ne {n : Nat} (h : n ≠ 0) : (Decimal.digitsOf n).head? ≠ some '0' := by
  intro hzero
  have hdigits := congrArg Decimal.ofDigits ((isWhole_digitsOf n).2 hzero)
  rw [Decimal.ofDigits_digitsOf] at hdigits
  exact h hdigits

theorem isWhole_of_head? {cs : List Char} (h : IsDigits cs) (hzero : cs.head? ≠ some '0') :
    IsWhole cs :=
  ⟨h, fun heq => absurd heq hzero⟩

theorem isDigit_of_mem_replicate {n : Nat} {c : Char} (h : c ∈ List.replicate n '0') :
    c.isDigit = true := by
  rw [(List.mem_replicate.1 h).2]
  rfl

/-- A magnitude without a sign: digits, and a point and an exponent, if there are any. -/
def IsMagnitude (cs : List Char) : Prop :=
  ∃ whole fraction exponent, IsWhole whole ∧ IsFraction fraction ∧ IsExponent exponent ∧
    cs = whole ++ (fraction ++ exponent)

theorem isMagnitude_positional {digits : List Char} (hd : IsDigits digits)
    (hzero : digits.head? ≠ some '0') (whole : Int) :
    IsMagnitude (Decimal.writePositional digits whole) := by
  obtain ⟨hne, hdigits⟩ := hd
  unfold Decimal.writePositional
  split
  · refine ⟨['0'], '.' :: (List.replicate (-whole).toNat '0' ++ digits), [], by decide, .some ?_, .none,
      by simp⟩
    refine ⟨by simp [hne], fun c hc => ?_⟩
    exact (List.mem_append.1 hc).elim isDigit_of_mem_replicate (hdigits c)
  · next hpos =>
    split
    · refine ⟨digits ++ List.replicate (whole.toNat - digits.length) '0', ['.', '0'], [], ?_,
        .some (by decide), .none, by simp⟩
      refine isWhole_of_head? ⟨by simp [hne], fun c hc => ?_⟩ ?_
      · exact (List.mem_append.1 hc).elim (hdigits c) isDigit_of_mem_replicate
      · rwa [List.head?_append_of_ne_nil _ hne]
    · next hlength =>
      obtain ⟨k, hk⟩ : ∃ k, whole.toNat = k + 1 := ⟨whole.toNat - 1, by omega⟩
      rw [hk] at hlength ⊢
      refine ⟨digits.take (k + 1), '.' :: digits.drop (k + 1), [], ?_, .some ?_, .none, by simp⟩
      · refine isWhole_of_head? ⟨by simp [hne], fun c hc => hdigits c (List.mem_of_mem_take hc)⟩ ?_
        rwa [List.head?_take, if_neg (Nat.succ_ne_zero k)]
      · refine ⟨?_, fun c hc => hdigits c (List.mem_of_mem_drop hc)⟩
        rw [Ne, List.drop_eq_nil_iff]
        exact hlength

theorem isMagnitude_scientific {digits : List Char} (hd : IsDigits digits)
    (hzero : digits.head? ≠ some '0') (first : Int) :
    IsMagnitude (Decimal.writeScientific digits first) := by
  obtain ⟨hne, hdigits⟩ := hd
  have hexponent : IsExponent ('e' :: Decimal.writeExponent first) := by
    have hsign : ∀ c : Char, c = '-' ∨ c = '+' → [c] = [] ∨ [c] = ['+'] ∨ [c] = ['-'] := by
      rintro c (rfl | rfl)
      · exact .inr (.inr rfl)
      · exact .inr (.inl rfl)
    exact .some (.inl rfl) (hsign _ (ite_eq_or_eq _ _ _)) (isDigits_digitsOf first.natAbs)
  match digits with
  | [] => exact absurd rfl hne
  | [d] => exact ⟨[d], [], _, isWhole_of_head? ⟨hne, hdigits⟩ hzero, .none, hexponent, rfl⟩
  | d :: d' :: rest =>
    obtain ⟨hd, hrest⟩ := List.forall_mem_cons.1 hdigits
    refine ⟨[d], '.' :: (d' :: rest), _, isWhole_of_head? ⟨List.cons_ne_nil _ _, ?_⟩ hzero,
      .some ⟨List.cons_ne_nil _ _, hrest⟩, hexponent, rfl⟩
    exact List.forall_mem_singleton.2 hd

theorem isMagnitude_write (s : Decimal.Scaled) : IsMagnitude s.write := by
  unfold Decimal.Scaled.write
  split
  · exact ⟨['0'], ['.', '0'], [], by decide, .some (by decide), .none, rfl⟩
  · next hs =>
    simp only
    split
    · exact isMagnitude_positional (isDigits_digitsOf _) (head?_digitsOf_ne hs) _
    · exact isMagnitude_scientific (isDigits_digitsOf _) (head?_digitsOf_ne hs) _

/-- A floating point number that has a written form is written as the grammar asks. -/
theorem isNumber_of_write? {x : Float} {cs : List Char} (h : Decimal.write? x = some cs) :
    IsNumber cs := by
  obtain ⟨b, -, rfl⟩ := Option.map_eq_some_iff.1 h
  obtain ⟨whole, fraction, exponent, hw, hf, he, hs⟩ := isMagnitude_write (Decimal.shortest b)
  rw [hs]
  refine .mk ?_ hw hf he
  cases b.negative with
  | true => exact .inr rfl
  | false => exact .inl rfl

/-! ## Whole numbers -/

theorem isNumber_writeInt (i : Int) : IsNumber (writeInt i) := by
  cases i with
  | ofNat n => exact (isWhole_digitsOf n).isNumber
  | negSucc n =>
    show IsNumber ('-' :: Decimal.digitsOf (n + 1))
    simpa using IsNumber.mk (.inr rfl) (isWhole_digitsOf (n + 1)) .none .none

/-! ## Spellings -/

/-- The spelling of a number. One that is not finite is written as the absence of a value. -/
def Number.spelling : Number → Spelling
  | .int i => .number (writeInt i) (isNumber_writeInt i)
  | .float x =>
    match h : Decimal.write? x with
    | some cs => .number cs (isNumber_of_write? h)
    | none => .null

theorem Number.chars_spelling (n : Number) : n.spelling.chars = n.write := by
  cases n with
  | int i => rfl
  | float x =>
    rw [Number.spelling, Number.write]
    split
    · next cs h => exact (congrArg (Option.getD · _) h).symm
    · next h => exact (congrArg (Option.getD · _) h).symm

/-- What is said of a container may be shown with what is said of all that it holds. -/
@[elab_as_elim]
theorem Value.induction {motive : Value → Prop} (null : motive .null)
    (bool : ∀ b, motive (.bool b)) (number : ∀ n, motive (.number n)) (text : ∀ s, motive (.text s))
    (array : ∀ xs, (∀ x ∈ xs, motive x) → motive (.array xs))
    (object : ∀ ms, (∀ m ∈ ms, motive m.2) → motive (.object ms)) (v : Value) : motive v :=
  @Value.rec motive (fun xs => ∀ x ∈ xs, motive x) (fun ms => ∀ m ∈ ms, motive m.2)
    (fun m => motive m.2) null bool number text array object (List.forall_mem_nil _)
    (fun _ _ hx hs => List.forall_mem_cons.2 ⟨hx, hs⟩) (List.forall_mem_nil _)
    (fun _ _ hm hs => List.forall_mem_cons.2 ⟨hm, hs⟩) (fun _ _ h => h) v

mutual

/-- The spelling in which a value is written. -/
def Value.spelling : Value → Spelling
  | .null => .null
  | .bool b => .bool b
  | .number n => n.spelling
  | .text s => .text (spell s)
  | .array xs => .array .none (itemsOf xs)
  | .object ms => .object .none (membersOf ms)

/-- Elements of an array, as they are written. -/
def itemsOf : List Value → List (Item Spelling)
  | [] => []
  | x :: xs => { value := x.spelling } :: itemsOf xs

/-- Members of an object, as they are written. -/
def membersOf : List (String × Value) → List Member
  | [] => []
  | (name, x) :: ms => member name x.spelling :: membersOf ms

end

theorem itemsOf_eq (xs : List Value) : itemsOf xs = xs.map fun x => { value := x.spelling } := by
  induction xs with
  | nil => rfl
  | cons x xs ih => rw [itemsOf, ih]; rfl

theorem membersOf_eq (ms : List (String × Value)) :
    membersOf ms = ms.map fun m => member m.1 m.2.spelling := by
  induction ms with
  | nil => rfl
  | cons m ms ih => rw [membersOf, ih]; rfl

theorem compactElements_eq {xs : List Value} (h : ∀ x ∈ xs, x.spelling.chars = x.compact) :
    Value.compactElements xs = (xs.map fun x => x.spelling.chars).flatMap (',' :: ·) ++ [']'] := by
  induction xs with
  | nil => rfl
  | cons x xs ih =>
    obtain ⟨hx, hxs⟩ := List.forall_mem_cons.1 h
    simp [Value.compactElements, ih hxs, hx]

theorem Value.chars_spelling (v : Value) : v.spelling.chars = v.compact := by
  induction v using Value.induction with
  | null => rfl
  | bool b => cases b <;> rfl
  | number n => exact n.chars_spelling
  | text s => exact quotation_spell s
  | array xs ih =>
    rw [spelling, itemsOf_eq, Spelling.chars_array, List.map_map]
    cases xs with
    | nil => rfl
    | cons x xs =>
      obtain ⟨hx, hxs⟩ := List.forall_mem_cons.1 ih
      simp [listed, compact, compactElements_eq hxs, Item.chars, Blanks.none, hx, Function.comp_def]
  | object ms ih =>
    rw [spelling, membersOf_eq]
    simpa using chars_object_eq Prod.fst ih

/-! ## Numbers that are read back -/

/-- The text of a number is read as this number. -/
def Number.ReadsBack (n : Number) : Prop :=
  Value.ofText (Value.number n).compactText = .ok (.number n)

theorem Number.readsBack_half : (Number.float 0.5).ReadsBack := by
  have htext : (Value.number (.float 0.5)).compactText = "0.5" := by decide +kernel
  rw [Number.ReadsBack, htext]
  rfl

theorem toOption_readAll {α : Type} {v : Spelling}
    {read : List Token → Except Fault (α × List Token)} {o : Option α}
    (h : (read (tokens (v.chars.map some ++ []))).toOption = o.map fun a => (a, tokens [])) :
    (readAll read (glyphs (String.ofList v.chars))).toOption = o := by
  rw [List.append_nil] at h
  rw [readAll, glyphs, String.toList_ofList]
  cases o with
  | none =>
    cases hr : read (tokens (v.chars.map some)) with
    | error f => rfl
    | ok p => rw [hr] at h; cases h
  | some a => rw [eq_ok_of_toOption h]; rfl

/-- What is written means what its spelling means. -/
theorem toOption_ofText_compactText (v : Value) :
    (Value.ofText v.compactText).toOption = v.spelling.value? depthLimit := by
  rw [Value.compactText, ← v.chars_spelling, Value.ofText]
  exact toOption_readAll (toOption_readValue v.spelling depthLimit rfl)

/-- A number is no container, so it does not matter how many of them are open. -/
theorem value?_spelling_of_readsBack {n : Number} (h : n.ReadsBack) (room : Nat) :
    n.spelling.value? room = some (.number n) := by
  have hv := toOption_ofText_compactText (.number n)
  rw [h] at hv
  refine Eq.trans ?_ hv.symm
  show n.spelling.value? room = n.spelling.value? depthLimit
  cases n with
  | int i => rfl
  | float x =>
    rw [Number.spelling]
    split <;> rfl

theorem leadingDigits_le {n : Nat} (h : n ≤ Decimal.wordMax) (cs : List Char) :
    (Decimal.leadingDigits n cs).1 ≤ Decimal.wordMax := by
  induction cs generalizing n with
  | nil => exact h
  | cons c cs ih =>
    rw [Decimal.leadingDigits]
    split
    · next hc => exact ih hc
    · exact h

theorem ne_int_of_scale {l : Literal} {significand : Nat} {exponent i : Int} :
    l.scale significand exponent ≠ .ok (.int i) := by
  unfold Literal.scale
  split <;> simp

/-- A whole number of a document fits 64 bits. -/
theorem int_of_literal {l : Literal} {i : Int} (h : l.value = .ok (.int i)) :
    (∃ n < UInt64.size, i = n) ∨ ∃ n ≠ 0, n ≤ Literal.magnitudeMax ∧ i = -(n : Nat) := by
  have hle : l.significand.1 ≤ Decimal.wordMax :=
    leadingDigits_le (leadingDigits_le (Nat.zero_le _) _) _
  have hlt : l.significand.1 < UInt64.size := Nat.lt_of_le_of_lt hle (by decide)
  unfold Literal.value at h
  simp only at h
  split at h
  · split at h
    · split at h <;> simp at h
    · exact absurd h ne_int_of_scale
  · split at h
    · split at h
      · simp only [Except.ok.injEq, Number.int.injEq] at h
        exact .inl ⟨_, hlt, h.symm⟩
      · split at h
        · exact absurd h ne_int_of_scale
        · next hrange =>
          simp only [Except.ok.injEq, Number.int.injEq] at h
          simp only [Bool.or_eq_true, decide_eq_true_eq, not_or, Nat.not_lt] at hrange
          exact .inr ⟨_, hrange.1, hrange.2, h.symm⟩
    · exact absurd h ne_int_of_scale

theorem value_of_negative {n : Nat} (hne : n ≠ 0) (h : n ≤ Literal.magnitudeMax) :
    (Literal.mk true (Decimal.digitsOf n) [] none).value = .ok (.int (-n)) := by
  have hdigits : Decimal.leadingDigits 0 (Decimal.digitsOf n) = (n, 0) := by
    have hn : (Decimal.digitsOf n).foldl Kind.withDigit 0 = n := Decimal.ofDigits_digitsOf n
    rw [Kind.leadingDigits_eq, hn]
    rw [hn]
    exact Nat.le_trans h (by decide)
  simp [Literal.value, Literal.significand, hdigits, Decimal.leadingDigits, hne, h]

/-- A whole number that was read is written as it is read. -/
theorem readsBack_of_literal {l : Literal} {i : Int} (h : l.value = .ok (.int i)) (room : Nat) :
    (Number.int i).spelling.value? room = some (.number (.int i)) := by
  show (number? (writeInt i)).map _ = _
  obtain ⟨n, hn, rfl⟩ | ⟨n, hne, hn, rfl⟩ := int_of_literal h
  · have hvalue : (Literal.mk false (Decimal.digitsOf n) [] none).value = .ok (.int n) := by
      rw [Kind.value_of_digits, Decimal.ofDigits_digitsOf]
      rwa [Decimal.ofDigits_digitsOf]
    have hnumber : number? (writeInt n) = some (.int n) := by
      show number? (Decimal.digitsOf n) = _
      rw [number?_eq fun rest => tokens_whole (isWhole_digitsOf n), hvalue]
      rfl
    rw [hnumber, Option.map_some]
  · obtain ⟨k, rfl⟩ : ∃ k, n = k + 1 := ⟨n - 1, by omega⟩
    have hnumber : number? (writeInt (-(k + 1 : Nat))) = some (.int (-(k + 1 : Nat))) := by
      show number? ('-' :: Decimal.digitsOf (k + 1)) = _
      rw [number?_eq fun rest => tokens_negative (isWhole_digitsOf (k + 1)), value_of_negative hne hn]
      rfl
    rw [hnumber, Option.map_some]

/-! ## Values that are read back -/

namespace Value

mutual

/-- The floating point numbers inside a value. -/
def floats : Value → List Float
  | .number (.float x) => [x]
  | .array xs => floatsOfElements xs
  | .object ms => floatsOfMembers ms
  | _ => []

/-- The floating point numbers inside elements. -/
def floatsOfElements : List Value → List Float
  | [] => []
  | x :: xs => x.floats ++ floatsOfElements xs

/-- The floating point numbers inside members. -/
def floatsOfMembers : List (String × Value) → List Float
  | [] => []
  | (_, x) :: ms => x.floats ++ floatsOfMembers ms

end

theorem floats_array (xs : List Value) : (array xs).floats = xs.flatMap floats := by
  have h : floatsOfElements xs = xs.flatMap floats := by
    induction xs with
    | nil => rfl
    | cons x xs ih => rw [floatsOfElements, ih, List.flatMap_cons]
  rw [floats, h]

theorem floats_object (ms : List (String × Value)) :
    (object ms).floats = ms.flatMap fun m => m.2.floats := by
  have h : floatsOfMembers ms = ms.flatMap fun m => m.2.floats := by
    induction ms with
    | nil => rfl
    | cons m ms ih => rw [floatsOfMembers, ih, List.flatMap_cons]
  rw [floats, h]

/-- Every floating point number inside a value is read back as it is written. -/
def ReadsBack (v : Value) : Prop :=
  ∀ x ∈ v.floats, (Number.float x).ReadsBack

theorem readsBack_array {xs : List Value} :
    (array xs).ReadsBack ↔ ∀ x ∈ xs, x.ReadsBack := by
  simp only [ReadsBack, floats_array, List.mem_flatMap]
  exact ⟨fun h x hx y hy => h y ⟨x, hx, hy⟩, fun h y ⟨x, hx, hy⟩ => h x hx y hy⟩

theorem readsBack_object {ms : List (String × Value)} :
    (object ms).ReadsBack ↔ ∀ m ∈ ms, m.2.ReadsBack := by
  simp only [ReadsBack, floats_object, List.mem_flatMap]
  exact ⟨fun h m hm x hx => h x ⟨m, hm, hx⟩, fun h x ⟨m, hm, hx⟩ => h m hm x hx⟩

theorem mapM_map_eq_some {ι κ : Type} {f : κ → Option ι} {g : ι → κ} {xs : List ι}
    (h : ∀ x ∈ xs, f (g x) = some x) : (xs.map g).mapM f = some xs := by
  induction xs with
  | nil => rfl
  | cons x xs ih =>
    obtain ⟨hx, hxs⟩ := List.forall_mem_cons.1 h
    simp [hx, ih hxs]

/-- A value that was read is what its spelling means, if its floating point numbers are. -/
theorem value?_spelling {room : Nat} {v : Value} (h : v.IsRead room) (hv : v.ReadsBack) :
    v.spelling.value? room = some v := by
  induction h with
  | null | bool => rfl
  | @number room l n h =>
    cases n with
    | int i => exact readsBack_of_literal h room
    | float x => exact value?_spelling_of_readsBack (hv x List.mem_cons_self) room
  | text s =>
    rw [spelling, Spelling.value?, meaning?_spell, Option.map_some, String.ofList_toList]
  | array _ ih =>
    have hxs := readsBack_array.1 hv
    rw [spelling, Spelling.value?, elements?_eq, itemsOf_eq,
      mapM_map_eq_some fun x hx => ih x hx (hxs x hx), Option.map_some]
  | object hs _ ih =>
    have hms := readsBack_object.1 hv
    rw [spelling, Spelling.value?, members?_eq, membersOf_eq, mapM_map_eq_some fun m hm => ?_,
      Option.map_some, ofMembers_of_isSorted hs]
    rw [Entry.value?, name?_member, value_member, ih m hm (hms m hm)]
    rfl

/-- An object that is written is a document. -/
theorem compactText_object (ms : List (String × Value)) :
    (object ms).compactText =
      Document.text { members := ms.map fun m => member m.1 m.2.spelling } := by
  rw [compactText, ← chars_spelling, Document.text, spelling, membersOf_eq]
  simp [Blanks.none]

end Value

/-! ## What is read of written values -/

section Decoders

variable {α : Type} {room : Nat}

theorem yields_text (s : String) :
    (Value.text s).spelling.Yields (Decoder.text.read room) s := by
  intro rest hrest
  have hs : Kind.text.Spells (.text (spell s)) s := meaning?_spell s
  exact Kind.text.reads hs room rest (Nat.zero_le _) hrest

theorem yields_bool (b : Bool) : (Value.bool b).spelling.Yields (Decoder.bool.read room) b := by
  intro rest _
  cases b with
  | true => exact congrArg (Decoder.bool.read room) tokens_true
  | false => exact congrArg (Decoder.bool.read room) tokens_false

/-- A value that is written is read again as it was read. -/
theorem yields_any {v : Value} (h : v.IsRead room) (hv : v.ReadsBack) :
    v.spelling.Yields (Decoder.any.read room) v :=
  Spelling.yields_any (Value.value?_spelling h hv)

theorem yields_textOrNull (o : Option String) :
    (Value.textOrNull o).spelling.Yields (Decoder.text.optional.read room) o := by
  cases o with
  | none => exact Spelling.yields_optional_null
  | some s => exact Spelling.yields_optional nofun (yields_text s)

/-- What means a value other than `null` is not spelled `null`. -/
theorem ne_null_of_value? {v : Spelling} {x : Value} (h : v.value? room = some x) (hx : x ≠ .null) :
    v ≠ .null := by
  rintro rfl
  exact hx (Option.some.inj h).symm

theorem yields_anyOrNull {o : Option Value}
    (h : ∀ v, o = some v → v ≠ .null ∧ v.IsRead room ∧ v.ReadsBack) :
    (o.getD .null).spelling.Yields (Decoder.any.optional.read room) o := by
  cases o with
  | none => exact Spelling.yields_optional_null
  | some v =>
    obtain ⟨hne, hread, hback⟩ := h v rfl
    have hv := Value.value?_spelling hread hback
    exact Spelling.yields_optional (ne_null_of_value? hv hne) (Spelling.yields_any hv)

theorem yields_floatOrNull {o : Option Float} (h : ∀ x, o = some x → (Number.float x).ReadsBack) :
    ((o.map Value.float).getD .null).spelling.Yields (Decoder.float.optional.read room) o := by
  cases o with
  | none => exact Spelling.yields_optional_null
  | some x =>
    have hx := value?_spelling_of_readsBack (h x rfl) room
    have hread : (Number.float x).spelling.Yields (Decoder.float.read room) x :=
      Spelling.yields_number hx rfl
    exact Spelling.yields_optional (ne_null_of_value? hx nofun) hread

/-- A field that is written as a value is read as what it holds. -/
theorem takes_written {r : Record α} {given : List String} {name : String} {f : Field α}
    {a a' b : α} {x : Value} {ms : List Member} (hf : r.field? name = some f) (hnew : name ∉ given)
    (hx : x.spelling.Yields (f.read room · a) a') (h : r.Takes room (name :: given) a' ms b) :
    r.Takes room given a (member name x.spelling :: ms) b :=
  .field (name?_member _ _) hf hnew hx h

end Decoders

end BackendMonitor.Json
