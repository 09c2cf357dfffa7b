import BackendMonitor.Json.Decoder

/-!
# The grammar of documents

How values are spelled, said without reading them: `Spelling` is a value together with all that its
text leaves to the writer, which are blanks, escapes and the form of numbers. What letters mean is told
apart from how they are spelled. Halves of surrogate pairs that stand alone are spelled as the grammar
asks, but letters with such a half mean nothing (`meaning?`).
-/

namespace BackendMonitor.Json

/-! ## Blanks -/

/-- Characters that may stand between words. -/
abbrev Blanks :=
  { cs : List Char // ∀ c ∈ cs, c = ' ' ∨ c = '\t' ∨ c = '\n' ∨ c = '\r' }

/-- No blanks at all. -/
def Blanks.none : Blanks :=
  ⟨[], fun _ h => by cases h⟩

/-! ## Texts -/

/-- A letter of a text, as it is spelled between the quotes. -/
inductive Letter where
  /-- A character that stands for itself. -/
  | plain (c : Char) (h : c ≠ '"' ∧ c ≠ '\\' ∧ 0x20 ≤ c.toNat)
  /-- A backslash and one letter, which stand for the character `c`. -/
  | short (letter c : Char) (h : shortEscape? letter = some c)
  /-- A backslash, a `u` and four digits in base sixteen, which stand for the number `n`. -/
  | unit (a b c d : Char) (n : Nat) (h : hexUnit? (some a) (some b) (some c) (some d) = some n)

/-- The spelling of a letter. -/
def Letter.chars : Letter → List Char
  | .plain c _ => [c]
  | .short letter _ _ => ['\\', letter]
  | .unit a b c d _ _ => ['\\', 'u', a, b, c, d]

/-- Letters between their quotes. -/
def quotation (t : List Letter) : List Char :=
  '"' :: (t.flatMap Letter.chars ++ ['"'])

/-- Whether a number is the first half of a surrogate pair. -/
def isHighHalf (n : Nat) : Bool :=
  0xD800 ≤ n && n ≤ 0xDBFF

/-- Whether a number is the second half of a surrogate pair. -/
def isLowHalf (n : Nat) : Bool :=
  0xDC00 ≤ n && n ≤ 0xDFFF

/-- The character of a surrogate pair. -/
def ofHalves (high low : Nat) : Char :=
  Char.ofNat (0x10000 + (high - 0xD800) * 0x400 + (low - 0xDC00))

/-- The characters that letters mean, if every half of a surrogate pair has its other half. -/
def meaning? : List Letter → Option (List Char)
  | [] => some []
  | .plain c _ :: t => (meaning? t).map (c :: ·)
  | .short _ c _ :: t => (meaning? t).map (c :: ·)
  | .unit _ _ _ _ n _ :: t =>
    if isLowHalf n then none
    else if isHighHalf n then
      match t with
      | .unit _ _ _ _ m _ :: t =>
        if isLowHalf m then (meaning? t).map (ofHalves n m :: ·) else none
      | _ => none
    else (meaning? t).map (Char.ofNat n :: ·)

/-! ## Numbers -/

/-- One digit or more. -/
def IsDigits (cs : List Char) : Prop :=
  cs ≠ [] ∧ ∀ c ∈ cs, c.isDigit = true

/-- The digits before the point: a zero stands alone. -/
def IsWhole (cs : List Char) : Prop :=
  IsDigits cs ∧ (cs.head? = some '0' → cs = ['0'])

instance (cs : List Char) : Decidable (IsDigits cs) :=
  decidable_of_iff (cs ≠ [] ∧ cs.all Char.isDigit = true) (by rw [List.all_eq_true, IsDigits])

instance (cs : List Char) : Decidable (IsWhole cs) :=
  inferInstanceAs (Decidable (_ ∧ _))

/-- A point and digits, or nothing. -/
inductive IsFraction : List Char → Prop where
  | none : IsFraction []
  | some {digits : List Char} (h : IsDigits digits) : IsFraction ('.' :: digits)

/-- An exponent, or nothing. -/
inductive IsExponent : List Char → Prop where
  | none : IsExponent []
  | some {mark : Char} {sign digits : List Char} (hm : mark = 'e' ∨ mark = 'E')
      (hs : sign = [] ∨ sign = ['+'] ∨ sign = ['-']) (h : IsDigits digits) :
      IsExponent (mark :: (sign ++ digits))

/-- A number. -/
inductive IsNumber : List Char → Prop where
  | mk {sign whole fraction exponent : List Char} (hs : sign = [] ∨ sign = ['-'])
      (hw : IsWhole whole) (hf : IsFraction fraction) (he : IsExponent exponent) :
      IsNumber (sign ++ (whole ++ (fraction ++ exponent)))

theorem IsWhole.isNumber {cs : List Char} (h : IsWhole cs) : IsNumber cs := by
  simpa using IsNumber.mk (.inl rfl) h .none .none

/-! ## Values -/

/-- A value in a container, with the blanks around it. -/
structure Item (α : Type) where
  before : Blanks := .none
  value : α
  after : Blanks := .none

/-- A value under a key. -/
structure Entry (α : Type) extends Item α where
  beforeKey : Blanks := .none
  key : List Letter
  afterKey : Blanks := .none

/-- The spelling of a value, of any kind and depth. A container that holds nothing may hold blanks. -/
inductive Spelling where
  | null
  | bool (b : Bool)
  | number (cs : List Char) (h : IsNumber cs)
  | text (t : List Letter)
  | array (blank : Blanks) (items : List (Item Spelling))
  | object (blank : Blanks) (members : List (Entry Spelling))

/-- A member of an object. -/
abbrev Member := Entry Spelling

/-- What is said of a container may be shown with what is said of all that it holds. -/
@[elab_as_elim, induction_eliminator]
theorem Spelling.induction {motive : Spelling → Prop} (null : motive .null)
    (bool : ∀ b, motive (.bool b)) (number : ∀ cs h, motive (.number cs h))
    (text : ∀ t, motive (.text t))
    (array : ∀ blank items, (∀ i ∈ items, motive i.value) → motive (.array blank items))
    (object : ∀ blank members, (∀ m ∈ members, motive m.value) → motive (.object blank members))
    (v : Spelling) : motive v :=
  @Spelling.rec motive (fun items => ∀ i ∈ items, motive i.value)
    (fun members => ∀ m ∈ members, motive m.value) (fun i => motive i.value)
    (fun m => motive m.value) null bool number text array object (List.forall_mem_nil _)
    (fun _ _ hi hs => List.forall_mem_cons.2 ⟨hi, hs⟩) (List.forall_mem_nil _)
    (fun _ _ hm hs => List.forall_mem_cons.2 ⟨hm, hs⟩) (fun _ _ _ h => h) (fun _ _ _ _ h => h) v

/-- Things with commas between them. Where there is none, blanks may stand instead. -/
def listed (blank : Blanks) : List (List Char) → List Char
  | [] => blank.val
  | x :: xs => x ++ xs.flatMap (',' :: ·)

mutual

/-- The characters of a spelling. -/
def Spelling.chars : Spelling → List Char
  | .null => ['n', 'u', 'l', 'l']
  | .bool true => ['t', 'r', 'u', 'e']
  | .bool false => ['f', 'a', 'l', 's', 'e']
  | .number cs _ => cs
  | .text t => quotation t
  | .array blank items => '[' :: (listed blank (charsOfItems items) ++ [']'])
  | .object blank members => '\x7b' :: (listed blank (charsOfMembers members) ++ ['\x7d'])

/-- The characters of values in an array. -/
def charsOfItems : List (Item Spelling) → List (List Char)
  | [] => []
  | ⟨before, v, after⟩ :: items => (before.val ++ (v.chars ++ after.val)) :: charsOfItems items

/-- The characters of members of an object. -/
def charsOfMembers : List (Entry Spelling) → List (List Char)
  | [] => []
  | ⟨⟨before, v, after⟩, beforeKey, key, afterKey⟩ :: members =>
    (beforeKey.val ++ (quotation key ++ (afterKey.val ++
      ':' :: (before.val ++ (v.chars ++ after.val))))) :: charsOfMembers members

end

/-- The characters of a value in a container. -/
def Item.chars (i : Item Spelling) : List Char :=
  i.before.val ++ (i.value.chars ++ i.after.val)

namespace Entry

/-- The characters of a member. -/
def chars (m : Entry Spelling) : List Char :=
  m.beforeKey.val ++ (quotation m.key ++ (m.afterKey.val ++ ':' :: m.toItem.chars))

/-- The name of a member, if its key means one. -/
def name? {α : Type} (m : Entry α) : Option String :=
  (meaning? m.key).map String.ofList

end Entry

namespace Spelling

theorem chars_array (blank : Blanks) (items : List (Item Spelling)) :
    (array blank items).chars = '[' :: (listed blank (items.map Item.chars) ++ [']']) := by
  have h : charsOfItems items = items.map Item.chars := by
    induction items with
    | nil => rfl
    | cons i items ih => rw [charsOfItems, ih]; rfl
  rw [chars, h]

theorem chars_object (blank : Blanks) (members : List Member) :
    (object blank members).chars = '\x7b' :: (listed blank (members.map Entry.chars) ++ ['\x7d']) := by
  have h : charsOfMembers members = members.map Entry.chars := by
    induction members with
    | nil => rfl
    | cons m members ih => rw [charsOfMembers, ih]; rfl
  rw [chars, h]

end Spelling

/-! ## Documents -/

/-- The spellings of the values of all members with a name. -/
def valuesOf (name : String) (members : List Member) : List Spelling :=
  (members.filter (·.name? == some name)).map (·.value)

@[simp] theorem valuesOf_nil (name : String) : valuesOf name [] = [] := rfl

theorem valuesOf_cons (name : String) (m : Member) (ms : List Member) :
    valuesOf name (m :: ms) =
      if m.name? = some name then m.value :: valuesOf name ms else valuesOf name ms := by
  by_cases h : m.name? = some name
  · rw [if_pos h, valuesOf, List.filter_cons_of_pos (by simpa using h)]
    rfl
  · rw [if_neg h, valuesOf, List.filter_cons_of_neg (by simpa using h)]
    rfl

theorem valuesOf_cons_of_name {m : Member} {name : String} (h : m.name? = some name)
    (name' : String) (ms : List Member) :
    valuesOf name' (m :: ms) =
      if name = name' then m.value :: valuesOf name' ms else valuesOf name' ms := by
  simp only [valuesOf_cons, h, Option.some_inj]

theorem valuesOf_perm {ms ms' : List Member} (h : ms.Perm ms') (name : String) :
    (valuesOf name ms).Perm (valuesOf name ms') :=
  (h.filter _).map _

/-- A document that is an object, with blanks around it. -/
structure Document where
  before : Blanks := .none
  blank : Blanks := .none
  members : List Member
  after : Blanks := .none

/-- The text of a document. -/
def Document.text (d : Document) : String :=
  String.ofList (d.before.val ++ ((Spelling.object d.blank d.members).chars ++ d.after.val))

end BackendMonitor.Json
