import BackendMonitor.Decimal.Layout

/-!
# Reading decimals

Two rules turn digits into a floating point number.

* `scaled` serves document numbers: the leading digits that fit 64 bits become a floating point
  number, which is then multiplied or divided by a power of ten. Each of the three steps rounds,
  so the result can differ from the nearest number in its last place.
* `ofText?` serves numbers given as plain text: the result is the nearest number.
-/

namespace BackendMonitor.Decimal

/-! ## Digits that fit 64 bits -/

/-- The greatest unsigned number of 64 bits. -/
def wordMax : Nat := UInt64.size - 1

/-- Takes in leading digits as long as the value fits 64 bits. The result is the value, and the
number of digits that were left out. -/
def leadingDigits (value : Nat) : List Char → Nat × Nat
  | [] => (value, 0)
  | c :: rest =>
    let next := value * 10 + digitValue c
    if next ≤ wordMax then leadingDigits next rest else (value, rest.length + 1)

/-! ## Scaling by a power of ten -/

/-- The floating point number nearest to `10 ^ n`. -/
def powerOfTen (n : Nat) : Float :=
  Float.ofScientific 1 false n

/-- `significand · 10 ^ exponent`, rounded at each step; `none` where it is beyond the floating
point range. One power of ten reaches down to `10 ^ -308`; a second one is taken below that, and
whatever lies below both is zero. -/
def scaled (significand : Nat) (exponent : Int) : Option Float :=
  let start := significand.toUInt64.toFloat
  if significand = 0 then some start
  else if 308 < exponent then none
  else if 0 ≤ exponent then
    let product := start * powerOfTen exponent.toNat
    if product.isInf then none else some product
  else if -308 ≤ exponent then some (start / powerOfTen (-exponent).toNat)
  else if -616 ≤ exponent then
    some (start / powerOfTen 308 / powerOfTen (-exponent - 308).toNat)
  else some 0.0

/-! ## Plain text -/

/-- `digits · 10 ^ exponent` rounded to the nearest floating point number. Exponents that leave
nothing to round are answered without taking the power. -/
def nearest (digits : List Char) (exponent : Int) : Float :=
  let significand := ofDigits digits
  let top := (digitsOf significand).length + exponent
  if significand = 0 || top < -400 then 0.0
  else if 400 < top then 1.0 / 0.0
  else if 0 ≤ exponent then Float.ofScientific significand false exponent.toNat
  else Float.ofScientific significand true (-exponent).toNat

/-- Takes a sign off. The result says whether it was a minus. -/
def takeSign : List Char → Bool × List Char
  | '-' :: rest => (true, rest)
  | '+' :: rest => (false, rest)
  | cs => (false, cs)

/-- The exponent part of a number, or nothing at all. -/
def readExponent? : List Char → Option Int
  | [] => some 0
  | c :: rest =>
    if c = 'e' || c = 'E' then
      let (negative, digits) := takeSign rest
      if digits.isEmpty || !digits.all Char.isDigit then none
      else some (if negative then -(ofDigits digits : Int) else ofDigits digits)
    else none

/-- A magnitude: digits with at most one point among them, and an exponent. -/
def readMagnitude? (cs : List Char) : Option Float :=
  let whole := cs.takeWhile Char.isDigit
  let afterWhole := cs.dropWhile Char.isDigit
  let (fraction, rest) := match afterWhole with
    | '.' :: more => (more.takeWhile Char.isDigit, more.dropWhile Char.isDigit)
    | more => ([], more)
  if whole.isEmpty && fraction.isEmpty then none
  else (readExponent? rest).map fun e => nearest (whole ++ fraction) (e - fraction.length)

/-- The words for what digits cannot say, in lower case. -/
def readWord? (cs : List Char) : Option Float :=
  let word := String.ofList (cs.map Char.toLower)
  if word = "inf" || word = "infinity" then some (1.0 / 0.0)
  else if word = "nan" then some (0.0 / 0.0)
  else none

/-- A number from a text that holds nothing else: an optional sign, and digits with an optional
point and exponent, or one of the words `inf`, `infinity` and `nan` in any case. -/
def ofText? (s : String) : Option Float :=
  let (negative, cs) := takeSign s.toList
  ((readWord? cs).orElse fun _ => readMagnitude? cs).map fun x => if negative then -x else x

end BackendMonitor.Decimal
