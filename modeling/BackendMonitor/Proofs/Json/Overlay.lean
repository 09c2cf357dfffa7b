import Mathlib.Data.List.Nodup
import BackendMonitor.Proofs.Json.Kinds
import BackendMonitor.Proofs.Json.Members

/-!
# Records that documents overlay

A document that gives some of the fields of a record replaces just these in the blank record, in
whatever order it gives them, and whatever else it holds.

* `Layout`: a record, field by field; none of its fields has to be given;
* `Layout.Overlays`: the record that members make of another one;
* `Layout.reads`, `Layout.ofText_eq`: an object and a document are read as the record that they overlay;
* `Layout.exists_overlays`: there is one if every field is given once at most, and as it should be;
* `Layout.overlays_of_rearranged`: the order of members, and those that are not fields, do not matter;
* `Layout.kind`: records are values of a kind.
-/

namespace BackendMonitor.Json

variable {α : Type} {ms ms' : List Member}

/-! ## Layouts -/

/-- A field of a record of type `α`: its name, the kind of its values, and its place. -/
structure Slot (α : Type) where
  name : String
  Held : Type
  kind : Kind Held
  get : α → Held
  set : Held → α → α

/-- The field of a slot. It need not be given. -/
def Slot.field (s : Slot α) : Field α :=
  .of s.name false s.kind.decoder s.set

/-- A record, field by field. -/
structure Layout (α : Type) where
  record : Record α
  slots : List (Slot α)
  /-- The number of containers that are open at once in the value of a field. -/
  depth : Nat
  fields_eq : record.fields = slots.map Slot.field
  nodup_names : (slots.map Slot.name).Nodup
  depth_le : ∀ s ∈ slots, s.kind.depth ≤ depth
  get_set : ∀ s ∈ slots, ∀ b a, s.get (s.set b a) = b
  get_set_of_ne : ∀ s ∈ slots, ∀ t ∈ slots, s.name ≠ t.name → ∀ b a, t.get (s.set b a) = t.get a
  ext : ∀ a b, (∀ s ∈ slots, s.get a = s.get b) → a = b

/-- The value of a field in `a`, if these spellings are given for it: the one that is spelled, or the
one in `blank` if none is given. -/
def Slot.Given (s : Slot α) (blank a : α) : List Spelling → Prop
  | [] => s.get a = s.get blank
  | [v] => s.kind.Spells v (s.get a)
  | _ => False

namespace Slot

variable {s : Slot α} {blank blank' a a' : α} {vs vs' : List Spelling}

theorem given_congr (h : s.get blank = s.get blank') (h' : s.get a = s.get a')
    (vs : List Spelling) : s.Given blank a vs ↔ s.Given blank' a' vs := by
  match vs with
  | [] => rw [Given, Given, h, h']
  | [v] => rw [Given, Given, h']
  | _ :: _ :: _ => rfl

theorem given_of_perm (h : vs.Perm vs') (hg : s.Given blank a vs) : s.Given blank a vs' := by
  match vs with
  | [] => rwa [List.nil_perm.1 h]
  | [v] => rwa [← List.singleton_perm.1 h]
  | _ :: _ :: _ => exact hg.elim

theorem get_eq_of_given (h : s.Given blank a vs) (h' : s.Given blank a' vs) :
    s.get a = s.get a' := by
  match vs with
  | [] => exact h.trans h'.symm
  | [v] => exact s.kind.spells_unique h h'
  | _ :: _ :: _ => exact h.elim

end Slot

/-! ## Members over a record -/

/-- Every key means a name. -/
def IsNamed (ms : List Member) : Prop :=
  ∀ m ∈ ms, m.name?.isSome = true

namespace Layout

/-- Members put over a record make another one: each field has the value that is given for it, or
stays as it is. -/
def Overlays (l : Layout α) (blank : α) (ms : List Member) (a : α) : Prop :=
  ∀ s ∈ l.slots, s.Given blank a (valuesOf s.name ms)

/-- No field is given twice, and what is given for a field is a value of its kind. -/
def Fits (l : Layout α) (ms : List Member) : Prop :=
  ∀ s ∈ l.slots, (valuesOf s.name ms).length ≤ 1 ∧
    ∀ v ∈ valuesOf s.name ms, ∃ b, s.kind.Spells v b

end Layout

/-! ## Reading -/

namespace Layout

variable {l : Layout α} {a b : α} {room : Nat}

theorem slot_eq_of_name_eq {s t : Slot α} (hs : s ∈ l.slots) (ht : t ∈ l.slots)
    (h : s.name = t.name) : s = t :=
  List.inj_on_of_nodup_map l.nodup_names hs ht h

/-- A name is that of a slot and of its field, or of none. -/
theorem field?_cases (l : Layout α) (name : String) :
    (∃ s ∈ l.slots, s.name = name ∧ l.record.field? name = some s.field) ∨
      (∀ s ∈ l.slots, s.name ≠ name) ∧ l.record.field? name = none := by
  have hfield : l.record.field? name = (l.slots.find? (·.name == name)).map Slot.field := by
    rw [Record.field?, l.fields_eq, List.find?_map]
    rfl
  rw [hfield]
  cases hs : l.slots.find? (·.name == name) with
  | none => exact .inr ⟨by simpa using hs, rfl⟩
  | some s =>
    exact .inl ⟨s, List.mem_of_find?_eq_some hs, by simpa using List.find?_some hs, rfl⟩

/-- No field has to be given. -/
theorem missing?_eq (l : Layout α) (given : List String) : l.record.missing? given = none := by
  rw [Record.missing?, l.fields_eq, Option.map_eq_none_iff, List.find?_eq_none]
  intro f hf
  obtain ⟨s, -, rfl⟩ := List.mem_map.1 hf
  simp [Slot.field, Field.of]

/-- Nothing more is given to a record that is complete. -/
theorem eq_of_overlays_nil (h : l.Overlays a [] b) : a = b :=
  l.ext a b fun s hs => (h s hs).symm

/-- A member that is no field may be left out. -/
theorem overlays_of_unknown {m : Member} (h : ∀ s ∈ l.slots, m.name? ≠ some s.name) :
    l.Overlays a (m :: ms) b ↔ l.Overlays a ms b := by
  refine forall₂_congr fun s hs => ?_
  rw [valuesOf_cons, if_neg (h s hs)]

/-- What is given for a field, it is given by one member only, which may be put into the record first. -/
theorem overlays_of_known {m : Member} {s : Slot α} (hs : s ∈ l.slots) (hm : m.name? = some s.name)
    (h : l.Overlays a (m :: ms) b) :
    valuesOf s.name ms = [] ∧ s.kind.Spells m.value (s.get b) ∧
      l.Overlays (s.set (s.get b) a) ms b := by
  have hgiven := h s hs
  rw [valuesOf_cons, if_pos hm] at hgiven
  have hnone : valuesOf s.name ms = [] := by
    cases hv : valuesOf s.name ms with
    | nil => rfl
    | cons v vs => rw [hv] at hgiven; exact hgiven.elim
  rw [hnone] at hgiven
  refine ⟨hnone, hgiven, fun t ht => ?_⟩
  by_cases hne : s.name = t.name
  · obtain rfl := slot_eq_of_name_eq hs ht hne
    rw [hnone]
    exact (l.get_set s hs _ _).symm
  · have ht' := h t ht
    rw [valuesOf_cons_of_name hm, if_neg hne] at ht'
    exact (Slot.given_congr (l.get_set_of_ne s hs t ht hne _ _) rfl _).2 ht'

/-- Nothing follows for the fields that were given before. -/
def IsOver (l : Layout α) (given : List String) (ms : List Member) : Prop :=
  ∀ s ∈ l.slots, s.name ∈ given → valuesOf s.name ms = []

theorem isOver_of_unknown {m : Member} {name : String} {given : List String}
    (hne : ∀ s ∈ l.slots, s.name ≠ name) (hm : m.name? = some name)
    (h : l.IsOver given (m :: ms)) : l.IsOver (name :: given) ms := by
  intro s hs hmem
  have hover := h s hs ((List.mem_cons.1 hmem).resolve_left (hne s hs))
  rwa [valuesOf_cons_of_name hm, if_neg (hne s hs).symm] at hover

/-- A field that is given now was not given before, and is not given again. -/
theorem isOver_of_known {m : Member} {s : Slot α} {given : List String} (hs : s ∈ l.slots)
    (hm : m.name? = some s.name) (hnone : valuesOf s.name ms = [])
    (h : l.IsOver given (m :: ms)) : s.name ∉ given ∧ l.IsOver (s.name :: given) ms := by
  refine ⟨fun hg => ?_, fun t ht hmem => ?_⟩
  · have hover := h s hs hg
    rw [valuesOf_cons, if_pos hm] at hover
    cases hover
  · by_cases hne : s.name = t.name
    · rwa [← hne]
    · have hover := h t ht ((List.mem_cons.1 hmem).resolve_left fun heq => hne heq.symm)
      rwa [valuesOf_cons_of_name hm, if_neg hne] at hover

/-- Members that overlay a record are read one after the other. -/
theorem takes_of_overlays {given : List String} (hroom : l.depth ≤ room) (hn : IsNamed ms)
    (h : l.Overlays a ms b) (hgiven : l.IsOver given ms) : l.record.Takes room given a ms b := by
  induction ms generalizing given a with
  | nil =>
    obtain rfl := eq_of_overlays_nil h
    exact .done (l.missing?_eq given)
  | cons m ms ih =>
    obtain ⟨hname, hn⟩ := List.forall_mem_cons.1 hn
    obtain ⟨name, hname⟩ := Option.isSome_iff_exists.1 hname
    obtain ⟨s, hs, rfl, hfield⟩ | ⟨hne, hfield⟩ := l.field?_cases name
    · obtain ⟨hnone, hspells, hoverlays⟩ := overlays_of_known hs hname h
      obtain ⟨hnew, hgiven⟩ := isOver_of_known hs hname hnone hgiven
      have hyields : m.value.Yields (s.kind.decoder.read room) (s.get b) := fun rest hrest =>
        s.kind.reads hspells room rest (Nat.le_trans (l.depth_le s hs) hroom) hrest
      exact .field hname hfield hnew (Field.yields_of hyields a) (ih hn hoverlays hgiven)
    · have hunknown : ∀ s ∈ l.slots, m.name? ≠ some s.name := by
        intro s hs heq
        rw [hname, Option.some_inj] at heq
        exact hne s hs heq.symm
      exact .other hname hfield
        (ih hn ((overlays_of_unknown hunknown).1 h) (isOver_of_unknown hne hname hgiven))

theorem takes_of_overlays_blank (hroom : l.depth ≤ room) (hn : IsNamed ms)
    (h : l.Overlays l.record.blank ms b) : l.record.Takes room [] l.record.blank ms b :=
  takes_of_overlays hroom hn h fun _ _ hs => absurd hs List.not_mem_nil

/-- An object is read as the record that its members make of the blank one. -/
theorem reads (h : l.Overlays l.record.blank ms b) (hn : IsNamed ms) (blank : Blanks) :
    l.record.decoder.Reads (l.depth + 1) (.object blank ms) b := by
  intro room rest hroom hrest
  obtain ⟨room, rfl⟩ : ∃ n, room = n + 1 := ⟨room - 1, by omega⟩
  exact Record.yields_object (takes_of_overlays_blank (by omega) hn h) blank rest hrest

/-- A document is read as the record that it overlays. -/
theorem ofText_eq (hl : l.depth < depthLimit) (d : Document) (hn : IsNamed d.members)
    (h : l.Overlays l.record.blank d.members b) : l.record.decoder.ofText d.text = .ok b :=
  Record.ofText_of_takes (takes_of_overlays_blank (Nat.le_sub_one_of_lt hl) hn h)

/-! ## Objects that overlay a record -/

theorem overlays_unique {blank a' : α} (h : l.Overlays blank ms a) (h' : l.Overlays blank ms a') :
    a = a' :=
  l.ext a a' fun s hs => Slot.get_eq_of_given (h s hs) (h' s hs)

/-- There is a record that members make of another one, if they fit. -/
theorem exists_overlays (h : l.Fits ms) (blank : α) : ∃ a, l.Overlays blank ms a := by
  have some_slots : ∀ slots : List (Slot α), (∀ s ∈ slots, s ∈ l.slots) →
      (slots.map Slot.name).Nodup → ∃ a, ∀ s ∈ slots, s.Given blank a (valuesOf s.name ms) := by
    intro slots hslots hnodup
    induction slots with
    | nil => exact ⟨blank, fun _ hs => absurd hs List.not_mem_nil⟩
    | cons s slots ih =>
      rw [List.map_cons, List.nodup_cons] at hnodup
      have hs := hslots s List.mem_cons_self
      obtain ⟨a, ha⟩ := ih (fun t ht => hslots t (List.mem_cons_of_mem _ ht)) hnodup.2
      obtain ⟨b, hb⟩ : ∃ b, s.Given blank (s.set b a) (valuesOf s.name ms) := by
        obtain ⟨hlength, hspells⟩ := h s hs
        match valuesOf s.name ms, hlength, hspells with
        | [], _, _ => exact ⟨s.get blank, l.get_set s hs _ _⟩
        | [v], _, hspells =>
          obtain ⟨b, hb⟩ := hspells v List.mem_cons_self
          exact ⟨b, by rwa [Slot.Given, l.get_set s hs]⟩
        | _ :: _ :: _, hlength, _ => exact absurd hlength (by simp)
      refine ⟨s.set b a, List.forall_mem_cons.2 ⟨hb, fun t ht => ?_⟩⟩
      have hne : s.name ≠ t.name := fun heq => hnodup.1 (List.mem_map.2 ⟨t, ht, heq.symm⟩)
      have hget := l.get_set_of_ne s hs t (hslots t (List.mem_cons_of_mem _ ht)) hne b a
      exact (Slot.given_congr rfl hget _).2 (ha t ht)
  exact some_slots l.slots (fun _ hs => hs) l.nodup_names

/-- Members that make some record of another one fit. -/
theorem fits_of_overlays {blank : α} (h : l.Overlays blank ms a) : l.Fits ms := by
  intro s hs
  have hgiven := h s hs
  match valuesOf s.name ms, hgiven with
  | [], _ => exact ⟨Nat.zero_le 1, fun _ hv => absurd hv List.not_mem_nil⟩
  | [v], hspells =>
    exact ⟨Nat.le_refl 1, fun w hw => ⟨_, List.mem_singleton.1 hw ▸ hspells⟩⟩
  | _ :: _ :: _, hfalse => exact hfalse.elim

/-- Members in another order, with more or fewer members that are no fields, and with other spellings
of the values of fields that are alike. -/
inductive Rearranged (l : Layout α) : List Member → List Member → Prop where
  | perm {ms ms' : List Member} (h : ms.Perm ms') : Rearranged l ms ms'
  | add {ms : List Member} {m : Member} {name : String} (hm : m.name? = some name)
      (hne : ∀ s ∈ l.slots, s.name ≠ name) : Rearranged l ms (m :: ms)
  | remove {ms : List Member} {m : Member} (hm : ∀ s ∈ l.slots, m.name? ≠ some s.name) :
      Rearranged l (m :: ms) ms
  | replace {ms : List Member} {m m' : Member} {s : Slot α} (hs : s ∈ l.slots)
      (hm : m.name? = some s.name) (hm' : m'.name? = some s.name)
      (h : s.kind.Alike m.value m'.value) : Rearranged l (m :: ms) (m' :: ms)
  | trans {ms ms' ms'' : List Member} (h : Rearranged l ms ms') (h' : Rearranged l ms' ms'') :
      Rearranged l ms ms''

theorem isNamed_of_rearranged (h : l.Rearranged ms ms') (hn : IsNamed ms) : IsNamed ms' := by
  induction h with
  | perm h => exact fun m hm => hn m (h.mem_iff.2 hm)
  | add hm => exact List.forall_mem_cons.2 ⟨by rw [hm]; rfl, hn⟩
  | remove => exact (List.forall_mem_cons.1 hn).2
  | replace _ _ hm' =>
    exact List.forall_mem_cons.2 ⟨by rw [hm']; rfl, (List.forall_mem_cons.1 hn).2⟩
  | trans _ _ ih ih' => exact ih' (ih hn)

/-- What members make of a record does not depend on how they are arranged. -/
theorem overlays_of_rearranged (h : l.Rearranged ms ms') (ho : l.Overlays a ms b) :
    l.Overlays a ms' b := by
  induction h with
  | perm h =>
    intro s hs
    exact Slot.given_of_perm (valuesOf_perm h s.name) (ho s hs)
  | add hm hne =>
    refine (overlays_of_unknown fun s hs heq => ?_).2 ho
    rw [hm, Option.some_inj] at heq
    exact hne s hs heq.symm
  | remove hm => exact (overlays_of_unknown hm).1 ho
  | @replace ms m m' s hs hm hm' halike =>
    obtain ⟨hnone, hspells, -⟩ := overlays_of_known hs hm ho
    intro t ht
    by_cases hne : s.name = t.name
    · obtain rfl := slot_eq_of_name_eq hs ht hne
      rw [valuesOf_cons, if_pos hm', hnone]
      exact s.kind.spells_of_alike halike hspells
    · have hgiven := ho t ht
      rw [valuesOf_cons_of_name hm, if_neg hne] at hgiven
      rwa [valuesOf_cons_of_name hm', if_neg hne]
  | trans _ _ ih ih' => exact ih' (ih ho)

/-- What spells a record is an object that makes it of the blank one. -/
def Spells (l : Layout α) : Spelling → α → Prop
  | .object _ ms, a => IsNamed ms ∧ l.Overlays l.record.blank ms a
  | _, _ => False

/-- Objects are alike if one is the other one rearranged. -/
def Alike (l : Layout α) : Spelling → Spelling → Prop
  | .object _ ms, .object _ ms' => l.Rearranged ms ms'
  | _, _ => False

/-- Records are values of a kind, so that they may be fields themselves. -/
def kind (l : Layout α) : Kind α where
  decoder := l.record.decoder
  depth := l.depth + 1
  Spells := l.Spells
  Alike := l.Alike
  reads {v b} h := by
    cases v with
    | object blank ms => exact reads h.2 h.1 blank
    | _ => exact h.elim
  spells_of_alike {v w b} halike h := by
    cases v with
    | object blank ms =>
      cases w with
      | object blank' ms' =>
        exact ⟨isNamed_of_rearranged halike h.1, overlays_of_rearranged halike h.2⟩
      | _ => exact halike.elim
    | _ => exact h.elim

end Layout

end BackendMonitor.Json
