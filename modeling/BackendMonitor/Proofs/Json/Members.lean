import BackendMonitor.Proofs.Json.Skipping

/-!
# Objects, member by member

A record is read from an object member by member: a member that is a field puts its value into the
record, any other one is passed over. What is made of the record in this way (`Takes`) says nothing
about tokens.

* `Spelling.Yields`, `Spelling.Fails`: what a reader makes of what is spelled, whatever follows;
* `Record.Takes`: members, one after the other, make one record of another;
* `Record.AddsNothing`: members that put into a record what is there anyway make no difference;
* `Record.yields_object`, `Record.ofText_of_takes`: an object and a document are read as the record
  that their members make of the blank one;
* `Record.ofText_eq_ok_iff`: and as no other, if the fields can tell what they read from what they
  refuse.
-/

namespace BackendMonitor.Json

variable {α β : Type} {rest : List Glyph} {room : Nat}

/-! ## Results, apart from their faults -/

theorem eq_ok_of_toOption {e : Except Fault α} {a : α} (h : e.toOption = some a) : e = .ok a := by
  cases e with
  | error f => cases h
  | ok b => cases h; rfl

theorem toOption_bind (e : Except Fault α) (f : α → Except Fault β) :
    (e.bind f).toOption = e.toOption.bind fun a => (f a).toOption := by
  cases e <;> rfl

theorem toOption_map (f : α → β) (e : Except Fault α) :
    (e.map f).toOption = e.toOption.map f := by
  cases e <;> rfl

/-! ## What is made of a spelling -/

namespace Spelling

variable {v : Spelling} {read : List Token → Except Fault (β × List Token)} {b b' : β}

/-- What is spelled is read as a value, whatever follows that does not go on with a number. -/
def Yields (v : Spelling) (read : List Token → Except Fault (β × List Token)) (b : β) : Prop :=
  ∀ rest, endsNumber rest = true →
    read (tokens (v.chars.map some ++ rest)) = .ok (b, tokens rest)

/-- What is spelled is refused, whatever follows that does not go on with a number. -/
def Fails (v : Spelling) (read : List Token → Except Fault (β × List Token)) : Prop :=
  ∀ rest, endsNumber rest = true →
    (read (tokens (v.chars.map some ++ rest))).toOption = none

/-- What is spelled is read or refused, and what follows has no part in it. -/
def Decides (v : Spelling) (read : List Token → Except Fault (β × List Token)) : Prop :=
  (∃ b, v.Yields read b) ∨ v.Fails read

theorem Yields.unique (h : v.Yields read b) (h' : v.Yields read b') : b = b' := by
  have heq := (h [] rfl).symm.trans (h' [] rfl)
  cases heq
  rfl

/-- A reader that succeeds has read what is spelled, and stands behind it. -/
theorem Decides.yields_of_eq_ok {ts : List Token} (h : v.Decides read)
    (hrest : endsNumber rest = true)
    (hread : read (tokens (v.chars.map some ++ rest)) = .ok (b, ts)) :
    v.Yields read b ∧ ts = tokens rest := by
  obtain ⟨b', hyields⟩ | hfails := h
  · have heq := (hyields rest hrest).symm.trans hread
    cases heq
    exact ⟨hyields, rfl⟩
  · have hnone := hfails rest hrest
    rw [hread] at hnone
    cases hnone

end Spelling

/-- A field is read as its decoder reads. -/
theorem Field.yields_of {v : Spelling} {name : String} {required : Bool} {d : Decoder β}
    {set : β → α → α} {b : β} (h : v.Yields (d.read room) b) (a : α) :
    v.Yields ((Field.of name required d set).read room · a) (set b a) := by
  intro rest hrest
  simp only [Field.of, h rest hrest]
  rfl

theorem Field.decides_of {v : Spelling} {name : String} {required : Bool} {d : Decoder β}
    {set : β → α → α} (h : v.Decides (d.read room)) (a : α) :
    v.Decides ((Field.of name required d set).read room · a) := by
  obtain ⟨b, hyields⟩ | hfails := h
  · exact .inl ⟨_, yields_of hyields a⟩
  · refine .inr fun rest hrest => ?_
    rw [Field.of, toOption_map, hfails rest hrest, Option.map_none]

/-- What a field is read as is a value that is put into the record. -/
theorem Field.exists_of_yields {v : Spelling} {name : String} {required : Bool} {d : Decoder β}
    {set : β → α → α} {a a' : α}
    (h : v.Yields ((Field.of name required d set).read room · a) a') : ∃ b, a' = set b a := by
  have hread := h [] rfl
  simp only [Field.of] at hread
  cases hd : d.read room (tokens (v.chars.map some ++ [])) with
  | error f => rw [hd] at hread; cases hread
  | ok p =>
    rw [hd] at hread
    simp only [Except.map, Except.ok.injEq, Prod.mk.injEq] at hread
    exact ⟨p.1, hread.1.symm⟩

/-! ## The tokens of a member -/

/-- The tokens of a member start with its key: with its name, or with what is no text. -/
theorem tokens_entry (m : Member) :
    ∃ content : Except Fault String, content.toOption = m.name? ∧
      ∀ rest, tokens (m.chars.map some ++ rest) = .text content ::
        tokens (m.afterKey.val.map some ++ some ':' :: (m.toItem.chars.map some ++ rest)) := by
  obtain ⟨content, hc, ho⟩ := tokens_quotation m.key
  refine ⟨content, ho, fun rest => ?_⟩
  simp only [Entry.chars, List.map_append, List.map_cons, List.append_assoc, List.cons_append,
    tokens_blanks, hc]

/-- A value takes at least one token. -/
theorem length_tokens_item (i : Item Spelling) (h : endsNumber rest = true) :
    (tokens rest).length < (tokens (i.chars.map some ++ rest)).length :=
  length_lt_of_skip (skip_spelling i h)

theorem length_tokens_entry (m : Member) (h : endsNumber rest = true) :
    (tokens rest).length < (tokens (m.chars.map some ++ rest)).length := by
  obtain ⟨content, -, htokens⟩ := tokens_entry m
  have hitem := length_tokens_item m.toItem h
  rw [htokens, tokens_blanks, tokens_colon, List.length_cons, List.length_cons]
  omega

/-- The tokens behind the first member of an object. -/
def tokensBehind (ms : List Member) (rest : List Glyph) : List Token :=
  tokens (((ms.map Entry.chars).flatMap (',' :: ·)).map some ++ some '\x7d' :: rest)

@[simp] theorem tokensBehind_nil : tokensBehind [] rest = .closeBrace :: tokens rest := by
  simp [tokensBehind]

theorem tokensBehind_cons (m : Member) (ms : List Member) (rest : List Glyph) :
    tokensBehind (m :: ms) rest = .comma :: tokens (m.chars.map some ++
      (((ms.map Entry.chars).flatMap (',' :: ·)).map some ++ some '\x7d' :: rest)) := by
  simp [tokensBehind]

namespace Record

variable {r : Record α} {a a' b : α} {given : List String} {m : Member} {ms : List Member}
  {name : String} {first : Bool} {before ts : List Token}

/-! ## Single members -/

/-- Whether a key comes first or behind a comma, what it means is the name of the member. -/
def IsBeforeKey (first : Bool) (before : List Token) : Prop :=
  ∀ content ts, nextKey first (before ++ .text content :: ts) =
    content.map fun name => (some name, ts)

theorem isBeforeKey_first : IsBeforeKey true [] := fun _ _ => rfl

theorem isBeforeKey_further : IsBeforeKey false [.comma] := fun _ _ => rfl

/-- At the end of the object the record is complete, or lacks a field. -/
theorem members_of_end (limit : Nat) (first : Bool) (given : List String) (a : α)
    (ts : List Token) :
    r.members room (limit + 1) first given a (.closeBrace :: ts) =
      (r.complete given a).map (·, ts) := by
  rw [members]
  rfl

/-- No member is read whose key means no name. -/
theorem members_of_nameless (hm : m.name? = none) (hkey : IsBeforeKey first before) (limit : Nat)
    (given : List String) (a : α) (rest : List Glyph) :
    (r.members room (limit + 1) first given a
      (before ++ tokens (m.chars.map some ++ rest))).toOption = none := by
  obtain ⟨content, hc, htokens⟩ := tokens_entry m
  rw [htokens, members, hkey]
  cases content with
  | error f => rfl
  | ok name => cases hc.trans hm

/-- No field is read for the second time. -/
theorem members_of_given {f : Field α} (hm : m.name? = some name) (hf : r.field? name = some f)
    (hgiven : name ∈ given) (hkey : IsBeforeKey first before) (limit : Nat) (a : α)
    (rest : List Glyph) :
    (r.members room (limit + 1) first given a
      (before ++ tokens (m.chars.map some ++ rest))).toOption = none := by
  obtain ⟨content, hc, htokens⟩ := tokens_entry m
  rw [htokens, members, hkey]
  cases content with
  | error f => rfl
  | ok name' =>
    obtain rfl : name' = name := Option.some.inj (hc.trans hm)
    simp [Except.map, hf, hgiven, Except.toOption]

/-- A member that is a field is read as the field is, and then the members behind it. -/
theorem members_of_field {f : Field α} (hm : m.name? = some name) (hf : r.field? name = some f)
    (hnew : name ∉ given) (hkey : IsBeforeKey first before) (limit : Nat) (a : α)
    (rest : List Glyph) :
    r.members room (limit + 1) first given a (before ++ tokens (m.chars.map some ++ rest)) =
      (f.read room (tokens (m.value.chars.map some ++ (m.after.val.map some ++ rest))) a).bind
        fun p => r.members room limit false (name :: given) p.1 p.2 := by
  obtain ⟨content, hc, htokens⟩ := tokens_entry m
  rw [htokens, members, hkey]
  cases content with
  | error f => cases hc.trans hm
  | ok name' =>
    obtain rfl : name' = name := Option.some.inj (hc.trans hm)
    simp only [Except.map, hf, hnew, member, tokens_blanks, tokens_colon, afterColon, Item.chars,
      List.map_append, List.append_assoc, List.contains_eq_mem, decide_false, Bool.and_false,
      Bool.false_eq_true, if_false]
    cases f.read room (tokens (m.value.chars.map some ++ (m.after.val.map some ++ rest))) a <;> rfl

/-- A member that is no field is passed over, and then the members behind it are read. -/
theorem members_of_other (hm : m.name? = some name) (hf : r.field? name = none)
    (hrest : endsNumber rest = true) (hkey : IsBeforeKey first before) (limit : Nat)
    (given : List String) (a : α) :
    r.members room (limit + 1) first given a (before ++ tokens (m.chars.map some ++ rest)) =
      r.members room limit false (name :: given) a (tokens rest) := by
  obtain ⟨content, hc, htokens⟩ := tokens_entry m
  have hskip := skip_spelling m.toItem hrest
  rw [htokens, members, hkey]
  cases content with
  | error f => cases hc.trans hm
  | ok name' =>
    obtain rfl : name' = name := Option.some.inj (hc.trans hm)
    simp [Except.map, hf, member, afterColon, hskip]

/-! ## What members make of a record -/

/-- Members that are read one after the other make a record of another one. The names in `given` were
given before. -/
inductive Takes (r : Record α) (room : Nat) : List String → α → List Member → α → Prop where
  /-- Every field that is required was given. -/
  | done {given : List String} {a : α} (h : r.missing? given = none) : Takes r room given a [] a
  /-- The value of a field is put into the record. -/
  | field {given : List String} {name : String} {f : Field α} {a a' b : α} {m : Member}
      {ms : List Member} (hm : m.name? = some name) (hf : r.field? name = some f)
      (hnew : name ∉ given) (hv : m.value.Yields (f.read room · a) a')
      (h : Takes r room (name :: given) a' ms b) : Takes r room given a (m :: ms) b
  /-- What is no field makes no difference. -/
  | other {given : List String} {name : String} {a b : α} {m : Member} {ms : List Member}
      (hm : m.name? = some name) (hf : r.field? name = none)
      (h : Takes r room (name :: given) a ms b) : Takes r room given a (m :: ms) b

theorem missing?_eq_none_iff :
    r.missing? given = none ↔ ∀ f ∈ r.fields, f.required = true → f.name ∈ given := by
  simp [missing?]

theorem takes_cons_iff :
    r.Takes room given a (m :: ms) b ↔ ∃ name, m.name? = some name ∧
      ((∃ f a', r.field? name = some f ∧ name ∉ given ∧ m.value.Yields (f.read room · a) a' ∧
          r.Takes room (name :: given) a' ms b) ∨
        r.field? name = none ∧ r.Takes room (name :: given) a ms b) := by
  constructor
  · intro h
    cases h with
    | field hm hf hnew hv h => exact ⟨_, hm, .inl ⟨_, _, hf, hnew, hv, h⟩⟩
    | other hm hf h => exact ⟨_, hm, .inr ⟨hf, h⟩⟩
  · rintro ⟨name, hm, ⟨f, a', hf, hnew, hv, h⟩ | ⟨hf, h⟩⟩
    · exact .field hm hf hnew hv h
    · exact .other hm hf h

/-- The first member is read, wherever it stands, and the members behind it are left. -/
theorem Takes.head (h : r.Takes room given a (m :: ms) b) (hkey : IsBeforeKey first before)
    (hrest : endsNumber rest = true) :
    ∃ name a', r.Takes room (name :: given) a' ms b ∧ ∀ limit,
      r.members room (limit + 1) first given a (before ++ tokens (m.chars.map some ++ rest)) =
        r.members room limit false (name :: given) a' (tokens rest) := by
  cases h with
  | field hm hf hnew hv h =>
    refine ⟨_, _, h, fun limit => ?_⟩
    rw [members_of_field hm hf hnew hkey,
      show Field.read _ _ _ _ = _ from hv (m.after.val.map some ++ rest) (endsNumber_blanks _ hrest),
      tokens_blanks]
    rfl
  | other hm hf h => exact ⟨_, _, h, fun limit => members_of_other hm hf hrest hkey limit given a⟩

/-- A member that was read is the first of those that make a record. -/
theorem takes_of_head (hs : ∀ f ∈ r.fields, ∀ v a, Spelling.Decides v (f.read room · a))
    (hkey : IsBeforeKey first before) (hrest : endsNumber rest = true) {limit : Nat}
    (h : r.members room (limit + 1) first given a
      (before ++ tokens (m.chars.map some ++ rest)) = .ok (b, ts)) :
    ∃ name a', r.members room limit false (name :: given) a' (tokens rest) = .ok (b, ts) ∧
      ∀ ms, r.Takes room (name :: given) a' ms b → r.Takes room given a (m :: ms) b := by
  have hsome := congrArg Except.toOption h
  cases hm : m.name? with
  | none => cases (members_of_nameless hm hkey limit given a rest).symm.trans hsome
  | some name =>
    cases hf : r.field? name with
    | none =>
      rw [members_of_other hm hf hrest hkey] at h
      exact ⟨name, a, h, fun ms => .other hm hf⟩
    | some f =>
      by_cases hnew : name ∈ given
      · cases (members_of_given hm hf hnew hkey limit a rest).symm.trans hsome
      rw [members_of_field hm hf hnew hkey] at h
      cases hread : f.read room
          (tokens (m.value.chars.map some ++ (m.after.val.map some ++ rest))) a with
      | error fault => rw [hread] at h; cases h
      | ok p =>
        obtain ⟨a', after⟩ := p
        obtain ⟨hv, rfl⟩ := (hs f (List.mem_of_find?_eq_some hf) m.value a).yields_of_eq_ok
          (endsNumber_blanks _ hrest) hread
        rw [hread, tokens_blanks] at h
        exact ⟨name, a', h, fun ms => .field hm hf hnew hv⟩

/-! ### Members that make no difference -/

/-- Whether a name was given before matters to the members with this name only, if no field of this
name has to be given. -/
theorem takes_congr_given {given' : List String} (hms : ∀ m ∈ ms, m.name? ≠ some name)
    (hf : ∀ f ∈ r.fields, f.name = name → f.required = false)
    (hgiven : ∀ other, other ≠ name → (other ∈ given ↔ other ∈ given')) :
    r.Takes room given a ms b ↔ r.Takes room given' a ms b := by
  induction ms generalizing given given' a with
  | nil =>
    have hmissing : r.missing? given = none ↔ r.missing? given' = none := by
      simp only [missing?_eq_none_iff]
      refine forall₃_congr fun f hmem hreq => hgiven f.name fun heq => ?_
      rw [hf f hmem heq] at hreq
      cases hreq
    constructor
    · rintro ⟨h⟩
      exact .done (hmissing.1 h)
    · rintro ⟨h⟩
      exact .done (hmissing.2 h)
  | cons m ms ih =>
    obtain ⟨hm, hms⟩ := List.forall_mem_cons.1 hms
    simp only [takes_cons_iff]
    refine exists_congr fun other => and_congr_right fun hother => ?_
    have hne : other ≠ name := by
      rintro rfl
      exact hm hother
    have htail {a : α} : r.Takes room (other :: given) a ms b ↔
        r.Takes room (other :: given') a ms b :=
      ih hms fun name' hname' => by simp [hgiven name' hname']
    simp only [hgiven other hne, htail]

/-- A member puts into every record that has a property what is there anyway, and the members with
other names leave the property as it is. -/
structure AddsNothing (r : Record α) (room : Nat) (P : α → Prop) (name : String) (m : Member) :
    Prop where
  name? : m.name? = some name
  exists_field : ∃ f, r.field? name = some f ∧ ∀ a, P a → m.value.Yields (f.read room · a) a
  required : ∀ g ∈ r.fields, g.name = name → g.required = false
  keeps : ∀ g ∈ r.fields, g.name ≠ name → ∀ v a a',
    Spelling.Yields v (g.read room · a) a' → P a → P a'

/-- A member adds nothing to the records whose field has the value of the member already. -/
theorem addsNothing_of {d : Decoder β} {set : β → α → α} (get : α → β) {b : β}
    (hm : m.name? = some name) (hf : r.field? name = some (.of name false d set))
    (hv : m.value.Yields (d.read room) b) (hset : ∀ a, set (get a) a = a)
    (hreq : ∀ g ∈ r.fields, g.name = name → g.required = false)
    (hkeep : ∀ g ∈ r.fields, g.name ≠ name → ∀ v a a',
      Spelling.Yields v (g.read room · a) a' → get a' = get a) :
    r.AddsNothing room (fun a => get a = b) name m := by
  refine ⟨hm, ⟨_, hf, fun a ha => ?_⟩, hreq, fun g hg hne v a a' hyields ha => ?_⟩
  · have hyields : m.value.Yields ((Field.of name false d set).read room · a) (set b a) :=
      Field.yields_of hv a
    rwa [← ha, hset] at hyields
  · rw [hkeep g hg hne v a a' hyields, ha]

theorem takes_insert_iff {P : α → Prop} {before after : List Member}
    (h : r.AddsNothing room P name m) (hbefore : ∀ m' ∈ before, m'.name? ≠ some name)
    (hafter : ∀ m' ∈ after, m'.name? ≠ some name) (hnew : name ∉ given) (ha : P a) :
    r.Takes room given a (before ++ m :: after) b ↔ r.Takes room given a (before ++ after) b := by
  induction before generalizing given a with
  | nil =>
    obtain ⟨f, hf, hsame⟩ := h.exists_field
    have hgiven : r.Takes room (name :: given) a after b ↔ r.Takes room given a after b :=
      takes_congr_given hafter h.required fun other hother => by simp [hother]
    rw [List.nil_append, List.nil_append, ← hgiven, takes_cons_iff]
    constructor
    · rintro ⟨name', hm', ⟨f', a', hf', -, hv, htakes⟩ | ⟨hf', -⟩⟩
      · obtain rfl : name = name' := Option.some.inj (h.name?.symm.trans hm')
        obtain rfl : f = f' := Option.some.inj (hf.symm.trans hf')
        obtain rfl : a = a' := (hsame a ha).unique hv
        exact htakes
      · obtain rfl : name = name' := Option.some.inj (h.name?.symm.trans hm')
        cases hf.symm.trans hf'
    · exact fun htakes => ⟨name, h.name?, .inl ⟨f, a, hf, hnew, hsame a ha, htakes⟩⟩
  | cons m' before ih =>
    obtain ⟨hm', hbefore⟩ := List.forall_mem_cons.1 hbefore
    simp only [List.cons_append, takes_cons_iff]
    refine exists_congr fun other => and_congr_right fun hother => ?_
    have hne : other ≠ name := by
      rintro rfl
      exact hm' hother
    have hnew' : name ∉ other :: given := List.not_mem_cons_of_ne_of_not_mem hne.symm hnew
    refine or_congr (exists₂_congr fun g a' => and_congr_right fun hg => and_congr_right fun _ =>
      and_congr_right fun hv => ih hbefore hnew' ?_) (and_congr_right fun _ => ih hbefore hnew' ha)
    have hname : g.name = other := by simpa using List.find?_some hg
    exact h.keeps g (List.mem_of_find?_eq_some hg) (hname ▸ hne) m'.value a a' hv ha

/-! ## Objects -/

theorem endsNumber_behind (ms : List Member) (rest : List Glyph) :
    endsNumber (((ms.map Entry.chars).flatMap (',' :: ·)).map some ++ some '\x7d' :: rest) = true :=
  endsNumber_flatMap _ rfl

/-- Further members are read up to the end of the object, if the limit lies beyond their tokens. -/
theorem Takes.members_further {limit : Nat} (h : r.Takes room given a ms b)
    (hlimit : (tokensBehind ms rest).length < limit) :
    r.members room limit false given a (tokensBehind ms rest) = .ok (b, tokens rest) := by
  induction ms generalizing given a limit with
  | nil =>
    obtain ⟨limit, rfl⟩ : ∃ n, limit = n + 1 := ⟨limit - 1, by omega⟩
    cases h with
    | done h => rw [tokensBehind_nil, members_of_end, complete, h]; rfl
  | cons m ms ih =>
    obtain ⟨limit, rfl⟩ : ∃ n, limit = n + 1 := ⟨limit - 1, by omega⟩
    obtain ⟨name, a', htakes, hhead⟩ := h.head isBeforeKey_further (endsNumber_behind ms _)
    have hlength := length_tokens_entry m (endsNumber_behind ms rest)
    rw [tokensBehind_cons] at hlimit ⊢
    refine (hhead limit).trans (ih htakes ?_)
    rw [List.length_cons] at hlimit
    exact Nat.lt_of_lt_of_le hlength (by omega)

/-- An object is read as the record that its members make of the blank one. -/
theorem yields_object (h : r.Takes room [] r.blank ms b) (blank : Blanks) :
    (Spelling.object blank ms).Yields (r.read (room + 1)) b := by
  intro rest hrest
  rw [Spelling.chars_object, List.map_cons, List.map_append, List.cons_append, List.append_assoc,
    tokens_openBrace]
  show r.members room _ true [] r.blank _ = _
  cases ms with
  | nil =>
    cases h with
    | done h =>
      rw [List.map_nil, listed, tokens_blanks]
      simp [members_of_end, complete, h, Except.map]
  | cons m ms =>
    obtain ⟨name, a', htakes, hhead⟩ := h.head isBeforeKey_first (endsNumber_behind ms rest)
    have hlength := length_tokens_entry m (endsNumber_behind ms rest)
    simp only [List.map_cons, listed, List.map_append, List.append_assoc, List.map_nil,
      List.cons_append, List.nil_append] at hhead ⊢
    rw [hhead]
    exact htakes.members_further hlength

/-- What an object is read as, its members make of the blank record. -/
theorem takes_of_further (hs : ∀ f ∈ r.fields, ∀ v a, Spelling.Decides v (f.read room · a))
    {limit : Nat} (h : r.members room limit false given a (tokensBehind ms rest) = .ok (b, ts)) :
    r.Takes room given a ms b ∧ ts = tokens rest := by
  induction ms generalizing given a limit with
  | nil =>
    cases limit with
    | zero => cases h
    | succ limit =>
      rw [tokensBehind_nil, members_of_end, complete] at h
      split at h
      · cases h
      · next hmissing => cases h; exact ⟨.done hmissing, rfl⟩
  | cons m ms ih =>
    cases limit with
    | zero => cases h
    | succ limit =>
      rw [tokensBehind_cons] at h
      obtain ⟨name, a', h, htakes⟩ :=
        takes_of_head hs isBeforeKey_further (endsNumber_behind ms _) h
      obtain ⟨hms, rfl⟩ := ih h
      exact ⟨htakes ms hms, rfl⟩

theorem takes_of_object (hs : ∀ f ∈ r.fields, ∀ v a, Spelling.Decides v (f.read room · a))
    {blank : Blanks} (h : r.read (room + 1)
      (tokens ((Spelling.object blank ms).chars.map some ++ rest)) = .ok (b, ts)) :
    r.Takes room [] r.blank ms b := by
  rw [Spelling.chars_object, List.map_cons, List.map_append, List.cons_append, List.append_assoc,
    tokens_openBrace] at h
  change r.members room _ true [] r.blank _ = _ at h
  cases ms with
  | nil =>
    rw [List.map_nil, listed, tokens_blanks, List.map_cons, List.cons_append, tokens_closeBrace,
      members_of_end, complete] at h
    split at h
    · cases h
    · next hmissing => cases h; exact .done hmissing
  | cons m ms =>
    simp only [List.map_cons, listed, List.map_append, List.append_assoc, List.map_nil,
      List.cons_append, List.nil_append] at h
    have hkey : IsBeforeKey true [] := isBeforeKey_first
    obtain ⟨name, a', h, htakes⟩ := takes_of_head hs hkey (endsNumber_behind ms _) h
    exact htakes ms (takes_of_further hs h).1

/-! ## Documents -/

/-- The tokens of a document are those of its object. -/
theorem tokens_text (d : Document) :
    tokens (glyphs d.text) =
      tokens ((Spelling.object d.blank d.members).chars.map some ++ (d.after.val.map some ++ [])) := by
  rw [glyphs, Document.text, String.toList_ofList, List.map_append, List.map_append, tokens_blanks,
    List.append_nil]

theorem ofText_of_takes {d : Document} (h : r.Takes (depthLimit - 1) [] r.blank d.members b) :
    r.decoder.ofText d.text = .ok b := by
  have hafter : endsNumber (d.after.val.map some ++ []) = true := endsNumber_blanks d.after rfl
  have hread : r.decoder.read depthLimit (tokens (glyphs d.text)) = .ok (b, []) := by
    rw [tokens_text, ← tokens_nil, ← tokens_blanks d.after []]
    exact yields_object h d.blank _ hafter
  rw [Decoder.ofText, Decoder.ofGlyphs, readAll, hread]

/-- A document is read as the record that its members make of the blank one, and as no other. -/
theorem ofText_eq_ok_iff
    (hs : ∀ f ∈ r.fields, ∀ v a, Spelling.Decides v (f.read (depthLimit - 1) · a)) (d : Document) :
    r.decoder.ofText d.text = .ok b ↔ r.Takes (depthLimit - 1) [] r.blank d.members b := by
  refine ⟨fun h => ?_, ofText_of_takes⟩
  rw [Decoder.ofText, Decoder.ofGlyphs, readAll, tokens_text] at h
  split at h
  · cases h
  · next a hread => cases h; exact takes_of_object hs hread
  · cases h

/-- A document means the same with and without a member that adds nothing. -/
theorem ofText_insert {P : α → Prop} {before after : List Member} {d d' : Document}
    (hs : ∀ f ∈ r.fields, ∀ v a, Spelling.Decides v (f.read (depthLimit - 1) · a))
    (h : r.AddsNothing (depthLimit - 1) P name m) (hblank : P r.blank)
    (hd : d.members = before ++ after) (hd' : d'.members = before ++ m :: after)
    (hname : ∀ m' ∈ d.members, m'.name? ≠ some name) :
    (r.decoder.ofText d'.text).toOption = (r.decoder.ofText d.text).toOption := by
  rw [hd] at hname
  obtain ⟨hbefore, hafter⟩ := List.forall_mem_append.1 hname
  have hiff (b : α) : r.decoder.ofText d'.text = .ok b ↔ r.decoder.ofText d.text = .ok b := by
    rw [ofText_eq_ok_iff hs, ofText_eq_ok_iff hs, hd, hd']
    exact takes_insert_iff h hbefore hafter List.not_mem_nil hblank
  cases hr : r.decoder.ofText d.text with
  | ok b => rw [(hiff b).2 hr]
  | error fault =>
    cases hr' : r.decoder.ofText d'.text with
    | ok b => cases hr.symm.trans ((hiff b).1 hr')
    | error fault' => rfl

end Record

end BackendMonitor.Json
