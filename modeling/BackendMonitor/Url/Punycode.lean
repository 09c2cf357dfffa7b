import BackendMonitor.Text.Pieces

/-!
# Punycode

Labels of host names in the letters and digits of ASCII. The characters of ASCII come first, as
they are; behind a hyphen follows where the others go, from the smallest to the greatest, as
differences written with digits of base 36 whose weights adapt to the differences before.

* `encode` writes a label;
* `decode?` reads one.
-/

namespace BackendMonitor.Url.Punycode

/-- A digit of base 36. -/
def digit (n : Nat) : Char :=
  if n < 26 then Char.ofNat (0x61 + n) else Char.ofNat (0x30 + n - 26)

/-- The digits from this one on may end a number, if they are smaller than the threshold. -/
def threshold (position bias : Nat) : Nat :=
  if position ≤ bias then 1 else if bias + 26 ≤ position then 26 else position - bias

theorem threshold_pos (position bias : Nat) : 0 < threshold position bias := by
  unfold threshold
  split
  · exact Nat.one_pos
  · split <;> omega

/-- A difference in digits, the first of them at `position`. -/
def digits (bias position n : Nat) : List Char :=
  let t := threshold position bias
  if n < t then [digit n]
  else digit (t + (n - t) % (36 - t)) :: digits bias (position + 36) ((n - t) / (36 - t))
termination_by n
decreasing_by
  have ht := threshold_pos position bias
  have hd := Nat.div_le_self (n - threshold position bias) (36 - threshold position bias)
  omega

/-- Divides a difference until it is small, and counts the divisions. -/
def shrink (n : Nat) : Nat × Nat :=
  if 455 < n then
    let (m, times) := shrink (n / 35)
    (m, times + 1)
  else (n, 0)
termination_by n
decreasing_by omega

/-- The bias after a difference; `handled` characters have been written then. -/
def adapt (difference handled : Nat) (first : Bool) : Nat :=
  let halved := if first then difference / 700 else difference / 2
  let (m, times) := shrink (halved + halved / handled)
  36 * times + 36 * m / (m + 38)

/-! ## Writing -/

/-- How far a label has been written. -/
structure Progress where
  /-- The characters written so far. -/
  written : List Char
  difference : Nat
  bias : Nat
  /-- How many characters of the label are settled. -/
  handled : Nat
  first : Bool := true

/-- Passes one character of the label on the way through those with number `n`. -/
def pass (n : Nat) (p : Progress) (c : Char) : Progress :=
  if c.toNat < n then { p with difference := p.difference + 1 }
  else if c.toNat = n then
    { written := p.written ++ digits p.bias 36 p.difference
      difference := 0
      bias := adapt p.difference (p.handled + 1) p.first
      handled := p.handled + 1
      first := false }
  else p

/-- Writes the characters with the given numbers, which go up; `reached` is the number before. -/
def insertAll (label : List Char) : List Nat → Nat → Progress → Progress
  | [], _, p => p
  | n :: rest, reached, p =>
    let p := { p with difference := p.difference + (n - reached) * (p.handled + 1) }
    let p := label.foldl (pass n) p
    insertAll label rest (n + 1) { p with difference := p.difference + 1 }

/-- A label in ASCII, without the mark that says so. -/
def encode (label : List Char) : List Char :=
  let basic := label.filter (·.toNat < 0x80)
  let others := (label.map Char.toNat).filter (0x80 ≤ ·)
  let start : Progress :=
    { written := if basic.isEmpty then [] else basic ++ ['-']
      difference := 0
      bias := 72
      handled := basic.length }
  (insertAll label (others.mergeSort).eraseDups 0x80 start).written

/-! ## Reading -/

/-- The value of a digit of base 36, in any case. -/
def digitValue? (c : Char) : Option Nat :=
  let n := c.toNat
  if 0x61 ≤ n && n ≤ 0x7A then some (n - 0x61)
  else if 0x41 ≤ n && n ≤ 0x5A then some (n - 0x41)
  else if 0x30 ≤ n && n ≤ 0x39 then some (n - 0x30 + 26)
  else none

/-- Reads a difference whose next digit stands at `position` and counts `weight` times. Behind it
comes what follows the last digit. -/
def difference? (bias position weight : Nat) : List Char → Option (Nat × List Char)
  | [] => none
  | c :: cs =>
    match digitValue? c with
    | none => none
    | some d =>
      let t := threshold position bias
      if d < t then some (d * weight, cs)
      else
        (difference? bias (position + 36) (weight * (36 - t)) cs).map fun (n, rest) =>
          (d * weight + n, rest)

theorem length_difference?_lt {bias position weight n : Nat} {cs rest : List Char}
    (h : difference? bias position weight cs = some (n, rest)) : rest.length < cs.length := by
  induction cs generalizing position weight n with
  | nil => simp [difference?] at h
  | cons c cs ih =>
    rw [difference?] at h
    split at h
    · cases h
    · simp only at h
      split at h
      · simp only [Option.some.injEq, Prod.mk.injEq] at h
        simp [h.2]
      · obtain ⟨⟨m, more⟩, hm, hr⟩ := Option.map_eq_some_iff.1 h
        simp only [Prod.mk.injEq] at hr
        obtain ⟨_, rfl⟩ := hr
        exact Nat.lt_succ_of_lt (ih hm)

/-- Whether a number is that of a character. -/
def isScalar (n : Nat) : Bool :=
  n < 0xD800 || (0xDFFF < n && n < 0x110000)

/-- Puts the characters into a label that differences tell: `reached` is the number of the one
before, and the first place to look at for the next one is `place`. -/
def place? (bias reached place : Nat) (label : List Char) (cs : List Char) :
    Option (List Char) :=
  if cs.isEmpty then some label
  else
    match _h : difference? bias 36 1 cs with
    | none => none
    | some (difference, rest) =>
      let count := label.length + 1
      let n := reached + (place + difference) / count
      let index := (place + difference) % count
      if isScalar n then
        place? (adapt difference count (place = 0)) n (index + 1)
          (label.insertIdx index (Char.ofNat n)) rest
      else none
termination_by cs.length
decreasing_by exact length_difference?_lt _h

/-- Reads a label, without the mark that says that it is one in ASCII. -/
def decode? (cs : List Char) : Option (List Char) :=
  match Text.cutAtLast? '-' cs with
  | some (c :: basic, behind) =>
    if (c :: basic).all (·.toNat < 0x80) then place? 72 0x80 0 (c :: basic) behind else none
  | _ => place? 72 0x80 0 [] cs

end BackendMonitor.Url.Punycode
