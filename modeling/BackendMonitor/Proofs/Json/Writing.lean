import Mathlib.Data.List.Basic
import BackendMonitor.Json.Printer
import BackendMonitor.Proofs.Json.Overlay

/-!
# Written values

What is written without blanks is spelled as the grammar asks.

* `meaning?_spell`: the letters of a written text mean its characters, whatever they are;
* `isWhole_digitsOf`: the digits of a written number are those of a whole number;
* `Written`: a value with the spelling that it is written in.
-/

namespace BackendMonitor.Json

/-! ## Texts -/

theorem hexUnit?_hexDigit {n : Nat} (h : n < 0x20) :
    hexUnit? (some '0') (some '0') (some (hexDigit (n / 16))) (some (hexDigit (n % 16))) =
      some n := by
  have hall : ∀ n : Fin 0x20, hexUnit? (some '0') (some '0') (some (hexDigit (n / 16)))
      (some (hexDigit (n % 16))) = some n.val := by decide
  exact hall ⟨n, h⟩

/-- The letter that a character is written as. -/
def spellChar (c : Char) : Letter :=
  if hq : c = '"' then .short '"' '"' rfl
  else if hb : c = '\\' then .short '\\' '\\' rfl
  else if c = '\x08' then .short 'b' '\x08' rfl
  else if c = '\x0c' then .short 'f' '\x0c' rfl
  else if c = '\n' then .short 'n' '\n' rfl
  else if c = '\r' then .short 'r' '\r' rfl
  else if c = '\t' then .short 't' '\t' rfl
  else if hc : c.toNat < 0x20 then
    .unit '0' '0' (hexDigit (c.toNat / 16)) (hexDigit (c.toNat % 16)) c.toNat (hexUnit?_hexDigit hc)
  else .plain c ⟨hq, hb, Nat.le_of_not_lt hc⟩

/-- The letters that a text is written in. -/
def spell (s : String) : List Letter :=
  s.toList.map spellChar

/-- The letter of a character is spelled as the character is written, and means it. -/
theorem spellChar_spec (c : Char) :
    (spellChar c).chars = escapeChar c ∧
      ∀ t, meaning? (spellChar c :: t) = (meaning? t).map (c :: ·) := by
  have hshort : ∀ c ∈ ['"', '\\', '\x08', '\x0c', '\n', '\r', '\t'],
      (spellChar c).chars = escapeChar c ∧
        ∀ t, meaning? (spellChar c :: t) = (meaning? t).map (c :: ·) := by
    simp only [List.forall_mem_cons]
    exact ⟨⟨rfl, fun _ => rfl⟩, ⟨rfl, fun _ => rfl⟩, ⟨rfl, fun _ => rfl⟩, ⟨rfl, fun _ => rfl⟩,
      ⟨rfl, fun _ => rfl⟩, ⟨rfl, fun _ => rfl⟩, ⟨rfl, fun _ => rfl⟩, List.forall_mem_nil _⟩
  by_cases hs : c ∈ ['"', '\\', '\x08', '\x0c', '\n', '\r', '\t']
  · exact hshort c hs
  simp only [List.mem_cons, List.not_mem_nil, or_false, not_or] at hs
  obtain ⟨hq, hb, hbs, hff, hn, hr, ht⟩ := hs
  by_cases hc : c.toNat < 0x20
  · have hlow : ¬isLowHalf c.toNat = true := by
      simp only [isLowHalf, Bool.and_eq_true, decide_eq_true_eq]
      omega
    have hhigh : ¬isHighHalf c.toNat = true := by
      simp only [isHighHalf, Bool.and_eq_true, decide_eq_true_eq]
      omega
    simp only [spellChar, escapeChar, dif_neg hq, dif_neg hb, if_neg hq, if_neg hb, if_neg hbs,
      if_neg hff, if_neg hn, if_neg hr, if_neg ht, dif_pos hc, if_pos hc]
    refine ⟨rfl, fun t => ?_⟩
    simp only [meaning?.eq_def (_ :: _), if_neg hlow, if_neg hhigh, Char.ofNat_toNat]
  · simp only [spellChar, escapeChar, dif_neg hq, dif_neg hb, if_neg hq, if_neg hb, if_neg hbs,
      if_neg hff, if_neg hn, if_neg hr, if_neg ht, dif_neg hc, if_neg hc]
    exact ⟨rfl, fun _ => rfl⟩

theorem quotation_spell (s : String) : quotation (spell s) = writeText s := by
  rw [quotation, writeText, spell, List.flatMap_map]
  simp only [spellChar_spec]

theorem meaning?_spell (s : String) : meaning? (spell s) = some s.toList := by
  rw [spell]
  induction s.toList with
  | nil => rfl
  | cons c cs ih => rw [List.map_cons, (spellChar_spec c).2, ih, Option.map_some]

/-! ## Whole numbers -/

theorem isWhole_digitsOf (n : Nat) : IsWhole (Decimal.digitsOf n) := by
  refine ⟨⟨Decimal.digitsOf_ne_nil n, fun c hc => Decimal.isDigit_of_mem_digitsOf hc⟩, ?_⟩
  induction n using Nat.strongRecOn with
  | _ n ih =>
    rw [Decimal.digitsOf]
    split
    · next hn =>
      intro hzero
      rw [List.head?_cons, Option.some_inj] at hzero
      rw [hzero]
    · next hn =>
      intro hzero
      rw [List.head?_append_of_ne_nil _ (Decimal.digitsOf_ne_nil _)] at hzero
      have hdigits := congrArg Decimal.ofDigits (ih (n / 10) (by omega) hzero)
      rw [Decimal.ofDigits_digitsOf] at hdigits
      have hquotient : n / 10 = 0 := hdigits
      omega

/-! ## Values -/

/-- A member without blanks. -/
def member (name : String) (v : Spelling) : Member :=
  { key := spell name, value := v }

@[simp] theorem name?_member (name : String) (v : Spelling) : (member name v).name? = some name := by
  rw [member, Entry.name?, meaning?_spell, Option.map_some, String.ofList_toList]

@[simp] theorem value_member (name : String) (v : Spelling) : (member name v).value = v := rfl

theorem chars_member (name : String) (v : Spelling) :
    (member name v).chars = writeText name ++ ':' :: v.chars := by
  simp [Entry.chars, Item.chars, member, Blanks.none, quotation_spell]

section Objects

variable {ι : Type} {name : ι → String} {value : ι → Value} {spelling : ι → Spelling} {ms : List ι}

theorem compactMembers_eq (h : ∀ m ∈ ms, (spelling m).chars = (value m).compact) :
    Value.compactMembers (ms.map fun m => (name m, value m)) =
      (ms.map fun m => (member (name m) (spelling m)).chars).flatMap (',' :: ·) ++ ['\x7d'] := by
  induction ms with
  | nil => rfl
  | cons m ms ih =>
    obtain ⟨hm, hms⟩ := List.forall_mem_cons.1 h
    simp [Value.compactMembers, ih hms, chars_member, hm]

/-- An object is spelled as it is written if its members are. -/
theorem chars_object_eq (name : ι → String)
    (h : ∀ m ∈ ms, (spelling m).chars = (value m).compact) :
    (Spelling.object .none (ms.map fun m => member (name m) (spelling m))).chars =
      (Value.object (ms.map fun m => (name m, value m))).compact := by
  rw [Spelling.chars_object, List.map_map]
  cases ms with
  | nil => rfl
  | cons m ms =>
    obtain ⟨hm, hms⟩ := List.forall_mem_cons.1 h
    simp [listed, Value.compact, compactMembers_eq hms, chars_member, hm, Function.comp_def]

end Objects

/-- A value with the spelling in which it is written. -/
structure Written where
  value : Value
  spelling : Spelling
  chars_eq : spelling.chars = value.compact

namespace Written

/-- A text. -/
def text (s : String) : Written :=
  ⟨.text s, .text (spell s), quotation_spell s⟩

/-- A whole number. -/
def nat (n : Nat) : Written :=
  ⟨.nat n, .number (Decimal.digitsOf n) (isWhole_digitsOf n).isNumber, rfl⟩

/-- The absence of a value. -/
def null : Written :=
  ⟨.null, .null, rfl⟩

/-- Members, as they are written. -/
def members (ms : List (String × Written)) : List Member :=
  ms.map fun m => member m.1 m.2.spelling

/-- An object. -/
def object (ms : List (String × Written)) : Written where
  value := .object (ms.map fun m => (m.1, m.2.value))
  spelling := .object .none (members ms)
  chars_eq := by
    have hms : ∀ m ∈ ms, m.2.spelling.chars = m.2.value.compact := fun m _ => m.2.chars_eq
    exact chars_object_eq Prod.fst hms

theorem spells_nat (n : Nat) : Kind.SpellsNatural (nat n).spelling n :=
  ⟨isWhole_digitsOf n, Decimal.ofDigits_digitsOf n⟩

theorem isNamed_members (ms : List (String × Written)) : IsNamed (members ms) := by
  rintro _ hm
  obtain ⟨m, -, rfl⟩ := List.mem_map.1 hm
  rw [name?_member]
  rfl

end Written

/-! ## Records -/

variable {α : Type} {a : α} {slots : List (Slot α)} {ws : List (String × Written)}

/-- A field is written under its name. -/
def Slot.IsWritten (a : α) (s : Slot α) (w : String × Written) : Prop :=
  s.name = w.1 ∧ s.kind.Spells w.2.spelling (s.get a)

theorem valuesOf_written_of_ne (h : List.Forall₂ (Slot.IsWritten a) slots ws) {name : String}
    (hname : ∀ s ∈ slots, s.name ≠ name) : valuesOf name (Written.members ws) = [] := by
  induction h with
  | nil => rfl
  | cons hw _ ih =>
    obtain ⟨hne, hname⟩ := List.forall_mem_cons.1 hname
    rw [Written.members, List.map_cons, valuesOf_cons_of_name (name?_member ..), ← hw.1, if_neg hne]
    exact ih hname

theorem valuesOf_written (h : List.Forall₂ (Slot.IsWritten a) slots ws)
    (hnodup : (slots.map Slot.name).Nodup) {s : Slot α} (hs : s ∈ slots) :
    ∃ v, valuesOf s.name (Written.members ws) = [v] ∧ s.kind.Spells v (s.get a) := by
  induction h with
  | nil => cases hs
  | @cons t w slots ws hw h ih =>
    rw [List.map_cons, List.nodup_cons] at hnodup
    have hne : ∀ t' ∈ slots, t'.name ≠ t.name := fun t' ht' heq =>
      hnodup.1 (List.mem_map.2 ⟨t', ht', heq⟩)
    rw [Written.members, List.map_cons, valuesOf_cons_of_name (name?_member ..), ← hw.1]
    rcases List.mem_cons.1 hs with rfl | hs
    · rw [if_pos rfl]
      exact ⟨_, congrArg (_ :: ·) (valuesOf_written_of_ne h hne), hw.2⟩
    · rw [if_neg (hne s hs).symm]
      exact ih hnodup.2 hs

namespace Layout

variable {l : Layout α}

/-- A record that is written field by field overlays any other one with itself. -/
theorem overlays_written (blank : α) (h : List.Forall₂ (Slot.IsWritten a) l.slots ws) :
    l.Overlays blank (Written.members ws) a := by
  intro s hs
  obtain ⟨v, hv, hspells⟩ := valuesOf_written h l.nodup_names hs
  rw [hv]
  exact hspells

theorem spells_written (h : List.Forall₂ (Slot.IsWritten a) l.slots ws) :
    l.kind.Spells (Written.object ws).spelling a :=
  ⟨Written.isNamed_members ws, overlays_written _ h⟩

end Layout

end BackendMonitor.Json
