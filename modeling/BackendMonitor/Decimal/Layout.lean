import BackendMonitor.Decimal.Shortest

/-!
# How a floating point number is written

The shortest digits that read back, written positionally where the first digit stands at
`10 ^ -5` to `10 ^ 15`, and with a signed exponent elsewhere. A positional number keeps a point
and at least one digit on each side of it, so it is never taken for a whole number.

* `digitsOf` writes a natural number in base ten, and `ofDigits` reads it (`ofDigits_digitsOf`);
* `write` writes a finite floating point number.
-/

namespace BackendMonitor.Decimal

/-! ## Natural numbers -/

/-- The character of a digit below ten. -/
def digitChar (d : Nat) : Char :=
  Char.ofNat ('0'.toNat + d)

/-- The value of a digit. -/
def digitValue (c : Char) : Nat :=
  c.toNat - '0'.toNat

/-- The digits of a natural number, most significant first. -/
def digitsOf (n : Nat) : List Char :=
  if n < 10 then [digitChar n] else digitsOf (n / 10) ++ [digitChar (n % 10)]
termination_by n

/-- The value of a list of digits. -/
def ofDigits (cs : List Char) : Nat :=
  cs.foldl (fun n c => n * 10 + digitValue c) 0

theorem digitValue_digitChar {d : Nat} (h : d < 10) : digitValue (digitChar d) = d := by
  have hall : ∀ k : Fin 10, digitValue (digitChar k) = k := by decide
  exact hall ⟨d, h⟩

theorem isDigit_digitChar {d : Nat} (h : d < 10) : (digitChar d).isDigit = true := by
  have hall : ∀ k : Fin 10, (digitChar k).isDigit = true := by decide
  exact hall ⟨d, h⟩

theorem ofDigits_append_singleton (cs : List Char) (c : Char) :
    ofDigits (cs ++ [c]) = ofDigits cs * 10 + digitValue c := by
  simp [ofDigits]

theorem ofDigits_digitsOf (n : Nat) : ofDigits (digitsOf n) = n := by
  induction n using Nat.strongRecOn with
  | _ n ih =>
    rw [digitsOf]
    split
    · next h => simp [ofDigits, digitValue_digitChar h]
    · next h =>
      rw [ofDigits_append_singleton, ih (n / 10) (by omega),
        digitValue_digitChar (Nat.mod_lt _ (by decide))]
      omega

theorem isDigit_of_mem_digitsOf {n : Nat} {c : Char} (h : c ∈ digitsOf n) :
    c.isDigit = true := by
  induction n using Nat.strongRecOn with
  | _ n ih =>
    rw [digitsOf] at h
    split at h
    · next hn => rw [List.mem_singleton.1 h]; exact isDigit_digitChar hn
    · next hn =>
      rcases List.mem_append.1 h with h | h
      · exact ih (n / 10) (by omega) h
      · rw [List.mem_singleton.1 h]; exact isDigit_digitChar (Nat.mod_lt _ (by decide))

theorem digitsOf_ne_nil (n : Nat) : digitsOf n ≠ [] := by
  rw [digitsOf]
  split <;> simp

/-! ## Floating point numbers -/

/-- The places of the first digit that are written positionally: from the first of these bounds
up to the second, which is left out. -/
def positional : Int × Int :=
  (-5, 16)

/-- An exponent with its sign. -/
def writeExponent (e : Int) : List Char :=
  (if e < 0 then '-' else '+') :: digitsOf e.natAbs

/-- Digits with a point after the first `whole` of them, and zeros where there are no digits. -/
def writePositional (digits : List Char) (whole : Int) : List Char :=
  if whole ≤ 0 then
    '0' :: '.' :: (List.replicate (-whole).toNat '0' ++ digits)
  else if digits.length ≤ whole.toNat then
    digits ++ List.replicate (whole.toNat - digits.length) '0' ++ ['.', '0']
  else
    digits.take whole.toNat ++ '.' :: digits.drop whole.toNat

/-- Digits with a point after the first, and the place of the first as exponent. -/
def writeScientific (digits : List Char) (first : Int) : List Char :=
  match digits with
  | [] => []
  | [d] => d :: 'e' :: writeExponent first
  | d :: rest => d :: '.' :: (rest ++ 'e' :: writeExponent first)

/-- A decimal, positionally or with an exponent. -/
def Scaled.write (s : Scaled) : List Char :=
  if s.digits = 0 then ['0', '.', '0']
  else
    let digits := digitsOf s.digits
    let first := s.place + digits.length - 1
    if positional.1 ≤ first && first < positional.2 then writePositional digits (first + 1)
    else writeScientific digits first

/-- A floating point number; an infinity, and what is no number, has no written form. -/
def write? (x : Float) : Option (List Char) :=
  (Binary.ofFloat? x).map fun b =>
    (if b.negative then ['-'] else []) ++ (shortest b).write

end BackendMonitor.Decimal
