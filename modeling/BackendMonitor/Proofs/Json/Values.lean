import BackendMonitor.Proofs.Json.Members

/-!
# What spelled values mean

`Spelling.value?` is the value that a spelling means, said without reading it; a reader of values
finds just this value, or refuses what means none.

* `Spelling.value?`: the value of a spelling, if no more containers are open at once than there is
  room for, and every text and every number in it means something;
* `toOption_readValue`: what is read is what is meant;
* `Spelling.decides_any`, `Spelling.decides_text`, …: what a decoder makes of a spelling, it makes of it
  whatever follows.
-/

namespace BackendMonitor.Json

variable {α β : Type} {rest : List Glyph} {limit : Nat} {stack : List Frame} {expect : Expect}

/-! ## Meaning -/

/-- The number that characters spell, if they spell one that is not out of range. -/
def number? (cs : List Char) : Option Number :=
  match tokens (cs.map some) with
  | [.number l] => l.value.toOption
  | _ => none

mutual

/-- The value that is spelled, if there is room for the containers that are open at once. -/
def Spelling.value? : Spelling → Nat → Option Value
  | .null, _ => some .null
  | .bool b, _ => some (.bool b)
  | .number cs _, _ => (number? cs).map .number
  | .text t, _ => (meaning? t).map fun cs => .text (String.ofList cs)
  | .array _ _, 0 => none
  | .array _ items, room + 1 => (elements? items room).map .array
  | .object _ _, 0 => none
  | .object _ members, room + 1 => (members? members room).map Value.ofMembers

/-- The values in an array. -/
def elements? : List (Item Spelling) → Nat → Option (List Value)
  | [], _ => some []
  | ⟨_, v, _⟩ :: items, room => do
    let x ← v.value? room
    let xs ← elements? items room
    return x :: xs

/-- The values in an object, with their names. -/
def members? : List (Entry Spelling) → Nat → Option (List (String × Value))
  | [], _ => some []
  | ⟨⟨_, v, _⟩, _, key, _⟩ :: members, room => do
    let name ← (meaning? key).map String.ofList
    let x ← v.value? room
    let xs ← members? members room
    return (name, x) :: xs

end

/-- A member as it is meant. -/
def Entry.value? (m : Member) (room : Nat) : Option (String × Value) := do
  let name ← m.name?
  let x ← m.value.value? room
  return (name, x)

theorem elements?_eq (items : List (Item Spelling)) (room : Nat) :
    elements? items room = items.mapM fun i => i.value.value? room := by
  induction items with
  | nil => rfl
  | cons i items ih => simp [elements?, ih]

theorem members?_eq (members : List Member) (room : Nat) :
    members? members room = members.mapM fun m => m.value? room := by
  induction members with
  | nil => rfl
  | cons m members ih => simp [members?, ih, Entry.value?, Entry.name?, Option.bind_assoc]

theorem number?_eq {cs : List Char} {l : Literal} (h : ∀ rest, endsNumber rest = true →
    tokens (cs.map some ++ rest) = .number l :: tokens rest) : number? cs = l.value.toOption := by
  have htokens := h [] rfl
  rw [List.append_nil, tokens_nil] at htokens
  rw [number?, htokens]

/-! ## Reading on -/

/-- Reads on behind a token. -/
def Progress.goOn (limit : Nat) (p : Progress Frame) (ts : List Token) :
    Except Fault (Value × List Token) :=
  match p with
  | .more expect stack => readTokens limit expect stack ts
  | .done v => .ok (v, ts)

theorem readTokens_cons (t : Token) (ts : List Token) :
    readTokens limit expect stack (t :: ts) =
      (readToken limit expect stack t).bind fun p => p.goOn limit ts := by
  rw [readTokens]
  cases readToken limit expect stack t with
  | error f => rfl
  | ok p => cases p <;> rfl

/-- Where a value may come, the token that starts it is read as one. -/
theorem readToken_of_isValue (h : expect.isValue = true) {t : Token} (ht : t ≠ .closeBracket) :
    readToken limit expect stack t = startValue limit stack t := by
  cases expect with
  | value | element => cases t <;> first | rfl | exact absurd rfl ht
  | firstElement => cases t <;> first | rfl | exact absurd rfl ht
  | _ => cases h

namespace Spelling

/-- What is spelled is read as the value that it means, whatever is open, and whatever follows that
does not go on with a number. -/
def IsMeant (v : Spelling) : Prop :=
  ∀ limit expect stack rest, expect.isValue = true → endsNumber rest = true →
    (readTokens limit expect stack (tokens (v.chars.map some ++ rest))).toOption =
      (v.value? (limit - stack.length)).bind fun x =>
        ((deliver x stack).goOn limit (tokens rest)).toOption

/-- A value of one token is handed on at once. -/
theorem isMeant_of_token {v : Spelling} {o : Option Value}
    (h : ∀ rest, endsNumber rest = true → ∃ t, tokens (v.chars.map some ++ rest) = t :: tokens rest ∧
      t ≠ .closeBracket ∧ ∀ limit stack,
        (startValue limit stack t).toOption = o.map fun x => deliver x stack)
    (hv : ∀ room, v.value? room = o) : v.IsMeant := by
  intro limit expect stack rest he hrest
  obtain ⟨t, ht, hne, hstart⟩ := h rest hrest
  rw [ht, readTokens_cons, readToken_of_isValue he hne, toOption_bind, hstart, hv,
    Option.bind_map]
  rfl

end Spelling

/-! ## Containers -/

/-- The parts of a container are read up to its end, each of them into what the container holds so
far, if each of them means something. -/
theorem read_listed {ι κ : Type} {held : List ι → Frame} {whole : List ι → Value} {first next : Expect}
    {close : Char} {last : Token} {part : κ → List Char} {meant : κ → Option ι}
    (hcomma : ∀ is, readToken limit .separator (held is :: stack) .comma =
      .ok (.more next (held is :: stack)))
    (hlast : ∀ rest, tokens (some close :: rest) = last :: tokens rest)
    (hclose : ∀ rest, endsNumber (some close :: rest) = true)
    (hends : ∀ is expect, expect = first ∨ expect = .separator →
      readToken limit expect (held is :: stack) last = .ok (deliver (whole is) stack))
    {xs : List κ}
    (hxs : ∀ x ∈ xs, ∀ expect, expect = first ∨ expect = next → ∀ is more, endsNumber more = true →
      (readTokens limit expect (held is :: stack) (tokens ((part x).map some ++ more))).toOption =
        (meant x).bind fun i =>
          (readTokens limit .separator (held (i :: is) :: stack) (tokens more)).toOption)
    (blank : Blanks) (rest : List Glyph) :
    (readTokens limit first (held [] :: stack)
        (tokens ((listed blank (xs.map part)).map some ++ some close :: rest))).toOption =
      (xs.mapM meant).bind fun is =>
        ((deliver (whole is.reverse) stack).goOn limit (tokens rest)).toOption := by
  -- Behind the first part, what is held by then stays below what is still to come.
  have further {xs : List κ} (is : List ι)
      (hxs : ∀ x ∈ xs, ∀ is more, endsNumber more = true →
        (readTokens limit next (held is :: stack) (tokens ((part x).map some ++ more))).toOption =
          (meant x).bind fun i =>
            (readTokens limit .separator (held (i :: is) :: stack) (tokens more)).toOption) :
      (readTokens limit .separator (held is :: stack)
          (tokens (((xs.map part).flatMap (',' :: ·)).map some ++ some close :: rest))).toOption =
        (xs.mapM meant).bind fun is' =>
          ((deliver (whole (is'.reverse ++ is)) stack).goOn limit (tokens rest)).toOption := by
    induction xs generalizing is with
    | nil =>
      rw [List.map_nil, List.flatMap_nil, List.map_nil, List.nil_append, hlast, readTokens_cons,
        hends _ _ (.inr rfl)]
      rfl
    | cons x xs ih =>
      obtain ⟨hx, hxs⟩ := List.forall_mem_cons.1 hxs
      simp only [List.map_cons, List.flatMap_cons, List.cons_append, List.map_append,
        List.append_assoc, tokens_comma]
      have hbehind := endsNumber_flatMap (xs.map part) (hclose rest)
      rw [readTokens_cons, hcomma]
      refine (hx is _ hbehind).trans ?_
      simp [ih _ hxs, Option.bind_assoc]
  cases xs with
  | nil =>
    rw [List.map_nil, listed, tokens_blanks, hlast, readTokens_cons, hends _ _ (.inl rfl)]
    rfl
  | cons x xs =>
    obtain ⟨hx, hxs⟩ := List.forall_mem_cons.1 hxs
    have hbehind := endsNumber_flatMap (xs.map part) (hclose rest)
    rw [List.map_cons, listed, List.map_append, List.append_assoc,
      hx first (.inl rfl) _ _ hbehind]
    simp [further _ fun x hx => hxs x hx next (.inr rfl), Option.bind_assoc]

variable {i : Item Spelling} {m : Member}

/-- An element is read into its array. -/
theorem read_item (limit : Nat) (stack : List Frame) (is : List Value) (h : i.value.IsMeant)
    (he : expect.isValue = true) (hrest : endsNumber rest = true) :
    (readTokens limit expect (.array is :: stack) (tokens (i.chars.map some ++ rest))).toOption =
      (i.value.value? (limit - stack.length - 1)).bind fun x =>
        (readTokens limit .separator (.array (x :: is) :: stack) (tokens rest)).toOption := by
  simp only [Item.chars, List.map_append, List.append_assoc, tokens_blanks]
  rw [h limit expect _ _ he (endsNumber_blanks i.after hrest), tokens_blanks]
  rfl

/-- A member is read into its object. -/
theorem read_entry (limit : Nat) (stack : List Frame) (ms : List (String × Value))
    (h : m.value.IsMeant) (he : expect = .firstKey ∨ expect = .key)
    (hrest : endsNumber rest = true) :
    (readTokens limit expect (.object ms :: stack) (tokens (m.chars.map some ++ rest))).toOption =
      (m.value? (limit - stack.length - 1)).bind fun x =>
        (readTokens limit .separator (.object (x :: ms) :: stack) (tokens rest)).toOption := by
  obtain ⟨content, hc, htokens⟩ := tokens_entry m
  have hkey : readToken limit expect (.object ms :: stack) (.text content) =
      content.map fun key => .more .colon (.member ms key :: stack) := by
    rcases he with rfl | rfl <;> rfl
  rw [htokens, readTokens_cons, hkey, toOption_bind, toOption_map, hc, Entry.value?,
    Option.bind_map]
  cases hm : m.name? with
  | none => rfl
  | some name =>
    have hcolon : readToken limit .colon (.member ms name :: stack) .colon =
        .ok (.more .value (.member ms name :: stack)) := rfl
    simp only [Function.comp_apply, Option.bind_some, Progress.goOn, tokens_blanks, tokens_colon]
    rw [readTokens_cons, hcolon]
    simp only [Except.bind, Progress.goOn, Item.chars, List.map_append, List.append_assoc,
      tokens_blanks]
    rw [h limit .value _ _ rfl (endsNumber_blanks m.after hrest), tokens_blanks]
    simp [Option.bind_assoc, deliver, Progress.goOn, Nat.sub_sub]

/-- A container is entered if there is room for one more. -/
theorem toOption_enter {frame : Frame} (ts : List Token) :
    ((enter limit expect frame stack).bind fun p => p.goOn limit ts).toOption =
      if limit - stack.length = 0 then none
      else (readTokens limit expect (frame :: stack) ts).toOption := by
  unfold enter
  split
  · next h => rw [if_neg (by omega)]; rfl
  · next h => rw [if_pos (by omega)]; rfl

namespace Spelling

theorem isMeant (v : Spelling) : v.IsMeant := by
  induction v with
  | null =>
    exact isMeant_of_token (fun rest _ => ⟨_, tokens_null, nofun, fun _ _ => rfl⟩) fun _ => rfl
  | bool b =>
    cases b with
    | true =>
      exact isMeant_of_token (fun rest _ => ⟨_, tokens_true, nofun, fun _ _ => rfl⟩) fun _ => rfl
    | false =>
      exact isMeant_of_token (fun rest _ => ⟨_, tokens_false, nofun, fun _ _ => rfl⟩) fun _ => rfl
  | number cs h =>
    obtain ⟨l, hl⟩ := tokens_number h
    have hnumber := number?_eq hl
    refine isMeant_of_token (o := (number? cs).map .number)
      (fun rest hrest => ⟨_, hl rest hrest, nofun, fun limit stack => ?_⟩) fun _ => rfl
    rw [startValue, toOption_map, hnumber, Option.map_map]
    rfl
  | text t =>
    obtain ⟨content, hc, ho⟩ := tokens_quotation t
    refine isMeant_of_token (o := (meaning? t).map fun cs => .text (String.ofList cs))
      (fun rest _ => ⟨_, hc rest, nofun, fun limit stack => ?_⟩) fun _ => rfl
    rw [startValue, toOption_map, ho, Option.map_map, Option.map_map]
    rfl
  | array blank items ih =>
    intro limit expect stack rest he hrest
    have hstart : readToken limit expect stack .openBracket =
        enter limit .firstElement (.array []) stack := readToken_of_isValue he nofun
    rw [chars_array, List.map_cons, List.map_append, List.cons_append, List.append_assoc,
      tokens_openBracket, readTokens_cons, hstart, toOption_enter]
    cases hroom : limit - stack.length with
    | zero => rfl
    | succ room =>
      rw [if_neg (by omega), value?, elements?_eq, Option.bind_map]
      have hcomma (is : List Value) : readToken limit .separator (.array is :: stack) .comma =
          .ok (.more .element (.array is :: stack)) := rfl
      have hends (is : List Value) (expect : Expect)
          (he : expect = .firstElement ∨ expect = .separator) :
          readToken limit expect (.array is :: stack) .closeBracket =
            .ok (deliver (.array is.reverse) stack) := by
        rcases he with rfl | rfl <;> rfl
      have hread (i : Item Spelling) (hi : i ∈ items) (expect : Expect)
          (he : expect = .firstElement ∨ expect = .element) (is : List Value) (more : List Glyph)
          (hmore : endsNumber more = true) :
          (readTokens limit expect (.array is :: stack) (tokens (i.chars.map some ++ more))).toOption =
            (i.value.value? room).bind fun x =>
              (readTokens limit .separator (.array (x :: is) :: stack) (tokens more)).toOption := by
        have hvalue : expect.isValue = true := by rcases he with rfl | rfl <;> rfl
        have hitem := read_item limit stack is (ih i hi) hvalue hmore
        rwa [hroom] at hitem
      refine (read_listed hcomma (fun _ => tokens_closeBracket) (fun _ => rfl) hends hread blank
        rest).trans ?_
      simp only [List.reverse_reverse]
      rfl
  | object blank members ih =>
    intro limit expect stack rest he hrest
    have hstart : readToken limit expect stack .openBrace =
        enter limit .firstKey (.object []) stack := readToken_of_isValue he nofun
    rw [chars_object, List.map_cons, List.map_append, List.cons_append, List.append_assoc,
      tokens_openBrace, readTokens_cons, hstart, toOption_enter]
    cases hroom : limit - stack.length with
    | zero => rfl
    | succ room =>
      rw [if_neg (by omega), value?, members?_eq, Option.bind_map]
      have hcomma (ms : List (String × Value)) :
          readToken limit .separator (.object ms :: stack) .comma =
            .ok (.more .key (.object ms :: stack)) := rfl
      have hends (ms : List (String × Value)) (expect : Expect)
          (he : expect = .firstKey ∨ expect = .separator) :
          readToken limit expect (.object ms :: stack) .closeBrace =
            .ok (deliver (.ofMembers ms.reverse) stack) := by
        rcases he with rfl | rfl <;> rfl
      have hread (m : Member) (hm : m ∈ members) (expect : Expect)
          (he : expect = .firstKey ∨ expect = .key) (ms : List (String × Value)) (more : List Glyph)
          (hmore : endsNumber more = true) :
          (readTokens limit expect (.object ms :: stack) (tokens (m.chars.map some ++ more))).toOption =
            (m.value? room).bind fun x =>
              (readTokens limit .separator (.object (x :: ms) :: stack) (tokens more)).toOption := by
        have hentry := read_entry limit stack ms (ih m hm) he hmore
        rwa [hroom] at hentry
      refine (read_listed hcomma (fun _ => tokens_closeBrace) (fun _ => rfl) hends hread blank
        rest).trans ?_
      simp only [List.reverse_reverse]
      rfl

end Spelling

/-- What is read is what is meant. -/
theorem toOption_readValue (v : Spelling) (room : Nat) (hrest : endsNumber rest = true) :
    (readValue room (tokens (v.chars.map some ++ rest))).toOption =
      (v.value? room).map fun x => (x, tokens rest) := by
  rw [readValue, v.isMeant room .value [] rest rfl hrest]
  exact Option.map_eq_bind.symm

/-! ## Decoders -/

namespace Spelling

variable {v : Spelling} {room : Nat} {d : Decoder β} {b : β}

theorem yields_any {x : Value} (h : v.value? room = some x) : v.Yields (Decoder.any.read room) x :=
  fun rest hrest => eq_ok_of_toOption (by
    rw [Decoder.any, toOption_readValue v room hrest, h, Option.map_some])

theorem decides_any (v : Spelling) (room : Nat) : v.Decides (Decoder.any.read room) := by
  cases h : v.value? room with
  | some x => exact .inl ⟨x, yields_any h⟩
  | none =>
    refine .inr fun rest hrest => ?_
    rw [Decoder.any, toOption_readValue v room hrest, h, Option.map_none]

/-- A value is one token, or starts with the token that opens a container. It starts with `null` only
if it is nothing else. -/
theorem token_cases (v : Spelling) :
    (∃ t, (v ≠ .null → t ≠ .null) ∧
        ∀ rest, endsNumber rest = true → tokens (v.chars.map some ++ rest) = t :: tokens rest) ∨
      ∃ t, (t = .openBracket ∨ t = .openBrace) ∧
        ∀ rest, ∃ ts, tokens (v.chars.map some ++ rest) = t :: ts := by
  cases v with
  | null => exact .inl ⟨_, fun hne => absurd rfl hne, fun _ _ => tokens_null⟩
  | bool b =>
    cases b with
    | true => exact .inl ⟨.bool true, nofun, fun _ _ => tokens_true⟩
    | false => exact .inl ⟨.bool false, nofun, fun _ _ => tokens_false⟩
  | number cs h =>
    obtain ⟨l, hl⟩ := tokens_number h
    exact .inl ⟨.number l, nofun, hl⟩
  | text t =>
    obtain ⟨content, hc, -⟩ := tokens_quotation t
    exact .inl ⟨.text content, nofun, fun rest _ => hc rest⟩
  | array blank items =>
    refine .inr ⟨_, .inl rfl, fun rest => ?_⟩
    rw [chars_array]
    exact ⟨_, tokens_openBracket⟩
  | object blank members =>
    refine .inr ⟨_, .inr rfl, fun rest => ?_⟩
    rw [chars_object]
    exact ⟨_, tokens_openBrace⟩

/-- A decoder that looks at one token takes no container. -/
theorem decides_ofToken {token : Token → Except Fault β} {ofValue : Value → Except Fault β}
    (hlist : (token .openBracket).toOption = none) (hobject : (token .openBrace).toOption = none)
    (v : Spelling) (room : Nat) : v.Decides ((Decoder.ofToken token ofValue).read room) := by
  have hread (t : Token) (ts : List Token) : (Decoder.ofToken token ofValue).read room (t :: ts) =
      (token t).map (·, ts) := rfl
  obtain ⟨t, -, ht⟩ | ⟨t, hopen, ht⟩ := v.token_cases
  · cases hb : token t with
    | ok b => exact .inl ⟨b, fun rest hrest => by rw [ht rest hrest, hread, hb]; rfl⟩
    | error f => exact .inr fun rest hrest => by rw [ht rest hrest, hread, hb]; rfl
  · have hnone : (token t).toOption = none := by
      rcases hopen with rfl | rfl
      · exact hlist
      · exact hobject
    refine .inr fun rest _ => ?_
    obtain ⟨ts, hts⟩ := ht rest
    rw [hts, hread, toOption_map, hnone, Option.map_none]

theorem decides_text (v : Spelling) (room : Nat) : v.Decides (Decoder.text.read room) :=
  decides_ofToken rfl rfl v room

theorem decides_float (v : Spelling) (room : Nat) : v.Decides (Decoder.float.read room) :=
  decides_ofToken rfl rfl v room

/-- Nothing but a number means one. -/
theorem eq_number_of_value? {n : Number} (h : v.value? room = some (.number n)) :
    ∃ cs hcs, v = .number cs hcs ∧ number? cs = some n := by
  cases v with
  | number cs hcs => exact ⟨cs, hcs, rfl, by simpa [value?] using h⟩
  | null | bool | text => simp [value?] at h
  | array | object => cases room <;> simp [value?, Value.ofMembers] at h

/-- A spelling that means a number is read as this number. -/
theorem yields_number {expected : String} {take : Number → Except Fault β} {n : Number}
    (h : v.value? room = some (.number n)) (ht : take n = .ok b) :
    v.Yields ((Decoder.number expected take).read room) b := by
  obtain ⟨cs, hcs, rfl, hn⟩ := eq_number_of_value? h
  obtain ⟨l, hl⟩ := tokens_number hcs
  rw [number?_eq hl] at hn
  intro rest hrest
  rw [chars, hl rest hrest]
  simp only [Decoder.number, Decoder.ofToken, eq_ok_of_toOption hn, Except.bind, ht]
  rfl

/-! ### Values that may be null -/

theorem exists_tokens_of_ne_null (h : v ≠ .null) (hrest : endsNumber rest = true) :
    ∃ t ts, tokens (v.chars.map some ++ rest) = t :: ts ∧ t ≠ .null := by
  obtain ⟨t, hne, ht⟩ | ⟨t, hopen, ht⟩ := v.token_cases
  · exact ⟨t, _, ht rest hrest, hne h⟩
  · obtain ⟨ts, hts⟩ := ht rest
    refine ⟨t, ts, hts, ?_⟩
    rcases hopen with rfl | rfl <;> nofun

theorem read_optional_of_ne_null (h : v ≠ .null) (hrest : endsNumber rest = true) :
    d.optional.read room (tokens (v.chars.map some ++ rest)) =
      (d.read room (tokens (v.chars.map some ++ rest))).map fun (b, ts) => (some b, ts) := by
  obtain ⟨t, ts, htokens, hne⟩ := exists_tokens_of_ne_null h hrest
  rw [htokens]
  cases t <;> first | rfl | exact absurd rfl hne

theorem yields_optional_null : Spelling.null.Yields (d.optional.read room) none := by
  intro rest _
  rw [chars, tokens_null]
  rfl

theorem yields_optional (hne : v ≠ .null) (h : v.Yields (d.read room) b) :
    v.Yields (d.optional.read room) (some b) := by
  intro rest hrest
  rw [read_optional_of_ne_null hne hrest, h rest hrest]
  rfl

theorem decides_optional (h : v.Decides (d.read room)) : v.Decides (d.optional.read room) := by
  by_cases hv : v = .null
  · subst hv
    exact .inl ⟨none, yields_optional_null⟩
  obtain ⟨b, hyields⟩ | hfails := h
  · exact .inl ⟨some b, yields_optional hv hyields⟩
  · refine .inr fun rest hrest => ?_
    rw [read_optional_of_ne_null hv hrest, toOption_map, hfails rest hrest, Option.map_none]

end Spelling

end BackendMonitor.Json
