import Mathlib.Data.List.Forall2
import BackendMonitor.Proofs.Json.Members
import BackendMonitor.Proofs.Json.Reading

/-!
# Reading records

* `Record.read_alike`: two records whose fields are read alike are read alike themselves, from an object
  and from an array;
* `Record.read_induction`: what the blank record has, and every field keeps, is had by every record
  that is read from a document;
* `Decoder.toOption_ofGlyphs_refine`: a check after reading, for a whole document.
-/

namespace BackendMonitor.Json

namespace Record

variable {α β : Type} {room : Nat} {ts rest : List Token}

/-! ## Records that are read alike -/

/-- Two readings go alike: they end in the same fault, or in things that belong together, with the same
tokens behind them. -/
inductive GoAlike (R : α → β → Prop) :
    Except Fault (α × List Token) → Except Fault (β × List Token) → Prop where
  | error (f : Fault) : GoAlike R (.error f) (.error f)
  | ok {a : α} {b : β} (h : R a b) (ts : List Token) : GoAlike R (.ok (a, ts)) (.ok (b, ts))

/-- Two fields are read alike. -/
structure FieldsAlike (R : α → β → Prop) (room : Nat) (f : Field α) (g : Field β) : Prop where
  name : f.name = g.name
  required : f.required = g.required
  read : ∀ ts a b, R a b → GoAlike R (f.read room ts a) (g.read room ts b)

theorem fieldsAlike_of {R : α → β → Prop} {γ : Type} {name : String} {required : Bool} {d : Decoder γ}
    {set : γ → α → α} {set' : γ → β → β} (h : ∀ v a b, R a b → R (set v a) (set' v b)) :
    FieldsAlike R room (.of name required d set) (.of name required d set') := by
  refine ⟨rfl, rfl, fun ts a b hab => ?_⟩
  simp only [Field.of]
  cases d.read room ts with
  | error f => exact .error f
  | ok p => exact .ok (h p.1 a b hab) p.2

/-- Two records have the same name, and fields that are read alike, one by one. -/
structure Alike (R : α → β → Prop) (room : Nat) (r : Record α) (s : Record β) : Prop where
  name : r.name = s.name
  fields : List.Forall₂ (FieldsAlike R room) r.fields s.fields
  blank : R r.blank s.blank

section Alike

variable {R : α → β → Prop} {r : Record α} {s : Record β} {a : α} {b : β}

theorem Alike.field? (h : Alike R room r s) (name : String) :
    (r.field? name = none ∧ s.field? name = none) ∨
      ∃ f g, r.field? name = some f ∧ s.field? name = some g ∧ FieldsAlike R room f g := by
  have hfields := h.fields
  unfold Record.field?
  generalize r.fields = fs, s.fields = gs at hfields ⊢
  induction hfields with
  | nil => exact .inl ⟨rfl, rfl⟩
  | @cons f g fs gs hf _ ih =>
    rw [List.find?_cons, List.find?_cons, ← hf.name]
    cases f.name == name with
    | false => exact ih
    | true => exact .inr ⟨f, g, rfl, rfl, hf⟩

theorem Alike.missing? (h : Alike R room r s) (given : List String) :
    r.missing? given = s.missing? given := by
  have hfields := h.fields
  unfold Record.missing?
  generalize r.fields = fs, s.fields = gs at hfields ⊢
  induction hfields with
  | nil => rfl
  | @cons f g fs gs hf _ ih =>
    rw [List.find?_cons, List.find?_cons, ← hf.name, ← hf.required]
    cases f.required && !given.contains f.name with
    | false => exact ih
    | true => exact congrArg some hf.name

theorem Alike.tooShort (h : Alike R room r s) (index : Nat) : r.tooShort index = s.tooShort index := by
  simp only [Record.tooShort, title, h.name, h.fields.length_eq]

theorem complete_alike (h : Alike R room r s) (hab : R a b) (given : List String) (ts : List Token) :
    GoAlike R ((r.complete given a).map (·, ts)) ((s.complete given b).map (·, ts)) := by
  rw [complete, complete, h.missing?]
  cases s.missing? given with
  | none => exact .ok hab ts
  | some name => exact .error _

theorem member_alike (h : Alike R room r s) (hab : R a b) (name : String) (ts : List Token) :
    GoAlike R (r.member room name a ts) (s.member room name b ts) := by
  unfold member
  cases afterColon ts with
  | error f => exact .error f
  | ok more =>
    obtain ⟨hr, hs⟩ | ⟨f, g, hr, hs, hfg⟩ := h.field? name
    · simp only [hr, hs]
      cases skip more with
      | error f => exact .error f
      | ok more' => exact .ok hab more'
    · simp only [hr, hs]
      exact hfg.read more a b hab

theorem members_alike (h : Alike R room r s) (hab : R a b) (limit : Nat) (first : Bool)
    (given : List String) (ts : List Token) :
    GoAlike R (r.members room limit first given a ts) (s.members room limit first given b ts) := by
  induction limit generalizing first given a b ts with
  | zero => exact .error _
  | succ limit ih =>
    have hfield (name : String) : (r.field? name).isSome = (s.field? name).isSome := by
      obtain ⟨hr, hs⟩ | ⟨f, g, hr, hs, -⟩ := h.field? name <;> rw [hr, hs] <;> rfl
    rw [members, members]
    split
    · exact .error _
    · exact complete_alike h hab given _
    · next name more _ =>
      rw [hfield]
      split
      · exact .error _
      · have hmember := member_alike h hab name more
        generalize r.member room name a more = x, s.member room name b more = y at hmember ⊢
        cases hmember with
        | error f => exact .error f
        | ok hab more => exact ih hab ..

theorem elements_alike {fs : List (Field α)} {gs : List (Field β)} (h : Alike R room r s)
    (hfs : List.Forall₂ (FieldsAlike R room) fs gs) (hab : R a b) (index : Nat) (first : Bool)
    (ts : List Token) :
    GoAlike R (r.elements room fs index first a ts) (s.elements room gs index first b ts) := by
  induction hfs generalizing index first a b ts with
  | nil =>
    rw [elements, elements]
    cases endArray ts with
    | error f => exact .error f
    | ok more => exact .ok hab more
  | @cons f g fs gs hf _ ih =>
    rw [elements, elements, ← hf.required, h.tooShort]
    split
    · exact .error _
    · split
      · exact .error _
      · exact ih hab ..
    · next more _ =>
      have hread := hf.read more a b hab
      generalize f.read room more a = x, g.read room more b = y at hread ⊢
      cases hread with
      | error f => exact .error f
      | ok hab more => exact ih hab ..

/-- Records whose fields are read alike are read alike. -/
theorem read_alike (h : Alike R (room - 1) r s) (ts : List Token) :
    GoAlike R (r.read room ts) (s.read room ts) := by
  unfold read
  split
  · exact .error _
  · split
    · exact .error _
    · exact members_alike h h.blank ..
  · split
    · exact .error _
    · exact elements_alike h h.fields h.blank ..
  · rw [title, title, h.name]
    exact .error _

/-- A document is read as things that belong together, or is no document for both. -/
theorem toOption_ofText_alike (h : Alike R (depthLimit - 1) r s) (text : String) :
    Option.Rel R (r.decoder.ofText text).toOption (s.decoder.ofText text).toOption := by
  have hread : GoAlike R (r.decoder.read depthLimit (tokens (glyphs text)))
      (s.decoder.read depthLimit (tokens (glyphs text))) := read_alike h _
  unfold Decoder.ofText Decoder.ofGlyphs readAll
  generalize r.decoder.read depthLimit (tokens (glyphs text)) = x,
    s.decoder.read depthLimit (tokens (glyphs text)) = y at hread ⊢
  cases hread with
  | error f => exact .none
  | ok hab ts =>
    cases ts with
    | nil => exact .some hab
    | cons t ts => exact .none

end Alike

/-! ## What is had by every record -/

variable {r : Record α} {motive : α → Prop} {a a' : α}

/-- Reading a field keeps something that is said of records, if there is room for so many containers. -/
def Keeps (motive : α → Prop) (room : Nat) (field : Field α) : Prop :=
  ∀ ts a a' rest, field.read room ts a = .ok (a', rest) → motive a → motive a'

theorem keeps_of {name : String} {required : Bool} {d : Decoder β} {set : β → α → α}
    (h : ∀ ts b rest, d.read room ts = .ok (b, rest) → ∀ a, motive a → motive (set b a)) :
    Keeps motive room (Field.of name required d set) := by
  intro ts a a' rest hr ha
  simp only [Field.of] at hr
  cases hd : d.read room ts with
  | error f => rw [hd] at hr; cases hr
  | ok p =>
    rw [hd] at hr
    cases hr
    exact h ts p.1 p.2 hd a ha

/-- What the blank record has, and every field keeps, has every record that is read. -/
theorem read_induction (hb : motive r.blank) (hf : ∀ field ∈ r.fields, Keeps motive (room - 1) field)
    (h : r.read room ts = .ok (a, rest)) : motive a := by
  have halike : Alike (fun a b => a = b ∧ motive a) (room - 1) r r := by
    refine ⟨rfl, List.forall₂_same.2 fun f hmem => ⟨rfl, rfl, ?_⟩, rfl, hb⟩
    rintro ts a _ ⟨rfl, ha⟩
    cases hr : f.read (room - 1) ts a with
    | error fault => exact .error fault
    | ok p => exact .ok ⟨rfl, hf f hmem ts a p.1 p.2 hr ha⟩ p.2
  have hread := read_alike halike ts
  rw [h] at hread
  cases hread with
  | ok ha => exact ha.2

end Record

/-! ## Whole documents -/

namespace Decoder

variable {α β : Type} {d : Decoder α} {check : α → Except Fault β} {gs : List Glyph}

/-- A document is read to its end. -/
theorem read_of_ofGlyphs {a : α} (h : d.ofGlyphs gs = .ok a) :
    d.read depthLimit (tokens gs) = .ok (a, []) := by
  unfold ofGlyphs readAll at h
  split at h
  · cases h
  · next hread => cases h; exact hread
  · cases h

/-- What was read of a document is checked. -/
theorem ofGlyphs_refine_of_ok {a : α} (h : d.ofGlyphs gs = .ok a) :
    (d.refine check).ofGlyphs gs = check a := by
  unfold ofGlyphs readAll
  simp only [refine, read_of_ofGlyphs h]
  cases check a <;> rfl

theorem toOption_ofGlyphs_refine :
    ((d.refine check).ofGlyphs gs).toOption =
      (d.ofGlyphs gs).toOption.bind fun a => (check a).toOption := by
  cases ha : d.ofGlyphs gs with
  | ok a => rw [ofGlyphs_refine_of_ok ha]; rfl
  | error f =>
    unfold ofGlyphs readAll at ha ⊢
    simp only [refine]
    split at ha
    · next hread => simp only [hread]; rfl
    · cases ha
    · next a t ts hread =>
      simp only [hread]
      cases check a <;> rfl

theorem ofGlyphs_refine_eq_ok {b : β} (h : (d.refine check).ofGlyphs gs = .ok b) :
    ∃ a, d.ofGlyphs gs = .ok a ∧ check a = .ok b := by
  have hb := congrArg Except.toOption h
  rw [toOption_ofGlyphs_refine, Except.toOption, Option.bind_eq_some_iff] at hb
  obtain ⟨a, ha, hb⟩ := hb
  exact ⟨a, eq_ok_of_toOption ha, eq_ok_of_toOption hb⟩

end Decoder

/-! ## Values in a record -/

/-- An optional value that is read is not `null`. -/
theorem isRead_of_optional {room : Nat} {ts rest : List Token} {v : Value}
    (h : Decoder.any.optional.read room ts = .ok (some v, rest)) : v ≠ .null ∧ v.IsRead room := by
  simp only [Decoder.optional, Decoder.any] at h
  split at h
  · cases h
  · next hts =>
    cases hv : readValue room ts with
    | error f => rw [hv] at h; cases h
    | ok p =>
      rw [hv] at h
      obtain ⟨x, more⟩ := p
      cases h
      refine ⟨?_, isRead_of_readValue hv⟩
      rintro rfl
      exact hts _ (readValue_eq_null hv)

end BackendMonitor.Json
