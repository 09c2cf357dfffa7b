import BackendMonitor.Json.Decoder
import BackendMonitor.Proofs.Json.Lexing

/-!
# Kinds of values

A kind is a type of values together with the decoder that reads them and with their spellings, so
that what has the spelling of a value is known to be read as that value.

* `Kind.text`, `Kind.word64`, `Kind.word32`: single values;
* `Kind.optional`: values that may be `null`.
-/

namespace BackendMonitor.Json

variable {β : Type} {rest : List Glyph}

/-! ## Kinds of values -/

/-- A spelling is read as a value, with `depth` more containers open at most, whatever follows that
does not go on with a number. -/
def Decoder.Reads (d : Decoder β) (depth : Nat) (v : Spelling) (b : β) : Prop :=
  ∀ room rest, depth ≤ room → endsNumber rest = true →
    d.read room (tokens (v.chars.map some ++ rest)) = .ok (b, tokens rest)

/-- A type of values: how they are read and spelled, and which spellings are alike, since they differ
only in what does not matter to the value. -/
structure Kind (β : Type) where
  decoder : Decoder β
  /-- The number of containers that are open at once in a value. -/
  depth : Nat
  Spells : Spelling → β → Prop
  Alike : Spelling → Spelling → Prop := Eq
  reads : ∀ {v b}, Spells v b → decoder.Reads depth v b
  spells_of_alike : ∀ {v w b}, Alike v w → Spells v b → Spells w b := by
    rintro _ _ _ rfl h
    exact h

/-- A spelling has one value at most. -/
theorem Kind.spells_unique (k : Kind β) {v : Spelling} {b b' : β} (h : k.Spells v b)
    (h' : k.Spells v b') : b = b' := by
  have hb := (k.reads h k.depth [] (Nat.le_refl _) rfl).symm.trans
    (k.reads h' k.depth [] (Nat.le_refl _) rfl)
  cases hb
  rfl

/-! ## Texts -/

namespace Kind

/-- Letters spell the text of the characters that they mean. -/
def SpellsText : Spelling → String → Prop
  | .text t, s => meaning? t = some s.toList
  | _, _ => False

/-- Texts. -/
def text : Kind String where
  decoder := .text
  depth := 0
  Spells := SpellsText
  reads {v s} h := by
    cases v with
    | text t =>
      intro room rest _ _
      obtain ⟨content, hc, ho⟩ := tokens_quotation t
      have hcontent : content.toOption = some s := by
        rw [ho, show meaning? t = some s.toList from h, Option.map_some, String.ofList_toList]
      rw [Spelling.chars, hc]
      cases content with
      | error f => cases hcontent
      | ok s' => cases hcontent; rfl
    | _ => exact h.elim

/-! ## Whole numbers -/

/-- Digits without a point and without an exponent spell the number that they make. -/
def SpellsNatural : Spelling → Nat → Prop
  | .number cs _, n => IsWhole cs ∧ Decimal.ofDigits cs = n
  | _, _ => False

/-- One more digit. -/
def withDigit (n : Nat) (c : Char) : Nat :=
  n * 10 + Decimal.digitValue c

theorem le_foldl_withDigit (n : Nat) (cs : List Char) : n ≤ cs.foldl withDigit n := by
  induction cs generalizing n with
  | nil => exact Nat.le_refl n
  | cons c cs ih =>
    have hc : n ≤ withDigit n c := by
      unfold withDigit
      omega
    exact Nat.le_trans hc (ih _)

/-- No digit is left out of a number that has 64 bits. -/
theorem leadingDigits_eq {cs : List Char} {n : Nat}
    (h : cs.foldl withDigit n ≤ Decimal.wordMax) :
    Decimal.leadingDigits n cs = (cs.foldl withDigit n, 0) := by
  induction cs generalizing n with
  | nil => rfl
  | cons c cs ih =>
    have hc : withDigit n c ≤ Decimal.wordMax := Nat.le_trans (le_foldl_withDigit _ cs) h
    exact (if_pos hc).trans (ih h)

theorem value_of_digits {cs : List Char} (h : Decimal.ofDigits cs < UInt64.size) :
    (Literal.mk false cs [] none).value = .ok (.int (Decimal.ofDigits cs)) := by
  have hdigits : Decimal.leadingDigits 0 cs = (Decimal.ofDigits cs, 0) :=
    leadingDigits_eq (Nat.le_sub_one_of_lt h)
  simp [Literal.value, Literal.significand, hdigits, Decimal.leadingDigits]

theorem number_reads {α : Type} {expected : String} {take : Number → Except Fault α} {v : Spelling}
    {n : Nat} {b : α} (h : SpellsNatural v n) (hn : n < UInt64.size) (ht : take (.int n) = .ok b) :
    (Decoder.number expected take).Reads 0 v b := by
  cases v with
  | number cs hcs =>
    obtain ⟨hw, rfl⟩ := h
    intro room rest _ hrest
    rw [Spelling.chars, tokens_whole hw hrest]
    simp only [Decoder.number, Decoder.ofToken, value_of_digits hn, Except.bind, ht]
    rfl
  | _ => exact h.elim

theorem takeNatural_eq {n bound : Nat} (h : n < bound) (expected : String) :
    Decoder.takeNatural expected bound (.int n) = .ok n :=
  if_pos h

/-- Whole numbers of 64 bits. -/
def word64 : Kind UInt64 where
  decoder := .word64
  depth := 0
  Spells v n := SpellsNatural v n.toNat
  reads {v n} h := number_reads h n.toNat_lt (by
    rw [takeNatural_eq n.toNat_lt, Except.map, Nat.toUInt64_eq, UInt64.ofNat_toNat])

/-- Whole numbers of 32 bits. -/
def word32 : Kind UInt32 where
  decoder := .word32
  depth := 0
  Spells v n := SpellsNatural v n.toNat
  reads {v n} h := number_reads h (Nat.lt_trans n.toNat_lt (by decide)) (by
    rw [takeNatural_eq n.toNat_lt, Except.map, Nat.toUInt32_eq, UInt32.ofNat_toNat])

/-! ## Values that may be null -/

/-- Values that may be `null`, of a kind without a value that is. -/
def optional (k : Kind β)
    (h : ∀ room ts, (k.decoder.read room (.null :: ts)).toOption = none) : Kind (Option β) where
  decoder := .optional k.decoder
  depth := k.depth
  Spells
    | v, none => v = .null
    | v, some b => k.Spells v b
  reads {v b} hv := by
    intro room rest hroom hrest
    cases b with
    | none =>
      obtain rfl : v = .null := hv
      rw [Spelling.chars, tokens_null]
      rfl
    | some b =>
      have hread := k.reads hv room rest hroom hrest
      simp only [Decoder.optional]
      split
      · next ts heq =>
        rw [heq] at hread
        have hnone := h room ts
        rw [hread] at hnone
        cases hnone
      · rw [hread]
        rfl

end Kind

end BackendMonitor.Json
