import BackendMonitor.Decimal.Reading
import BackendMonitor.Json.Value
import BackendMonitor.Json.Fault

/-!
# Number literals

A number as it is spelled in a document, and the number that it means. Whole numbers that fit 64
bits, signed or unsigned, stay whole; a larger one, and negative zero, becomes a floating point
number, as does every literal with a point or an exponent.
-/

namespace BackendMonitor.Json

/-- A number literal that is spelled as the grammar asks. -/
structure Literal where
  negative : Bool
  /-- The digits before the point. -/
  whole : List Char
  /-- The digits after the point; empty without a point. -/
  fraction : List Char
  /-- The exponent's sign (`true` for a minus) and digits. -/
  exponent : Option (Bool × List Char)
deriving DecidableEq, Repr

namespace Literal

/-- The greatest exponent that is taken at its value; a greater one is beyond every number. -/
def exponentMax : Nat := 0x7FFFFFFF

/-- The greatest magnitude of a negative whole number. -/
def magnitudeMax : Nat := 0x8000000000000000

/-- A magnitude with the literal's sign. -/
def signed (l : Literal) (x : Float) : Float :=
  if l.negative then -x else x

/-- A scaled significand with the literal's sign. -/
def scale (l : Literal) (significand : Nat) (exponent : Int) : Except Fault Number :=
  match Decimal.scaled significand exponent with
  | some x => .ok (.float (l.signed x))
  | none => .error .numberOutOfRange

/-- The significand that fits 64 bits, and the power of ten that goes with it: digits left out
before the point raise the power, digits taken in after it lower it. -/
def significand (l : Literal) : Nat × Int :=
  let (whole, dropped) := Decimal.leadingDigits 0 l.whole
  let (value, droppedAfter) := Decimal.leadingDigits whole l.fraction
  (value, (dropped : Int) - ((l.fraction.length - droppedAfter : Nat) : Int))

/-- The number that a literal means. -/
def value (l : Literal) : Except Fault Number :=
  let (significand, place) := l.significand
  match l.exponent with
  | some (minus, digits) =>
    let e := Decimal.ofDigits digits
    if exponentMax < e then
      if significand = 0 || minus then .ok (.float (l.signed 0.0)) else .error .numberOutOfRange
    else l.scale significand (if minus then place - e else place + e)
  | none =>
    if l.fraction.isEmpty && place == 0 then
      if !l.negative then .ok (.int significand)
      else if significand = 0 || magnitudeMax < significand then l.scale significand 0
      else .ok (.int (-significand))
    else l.scale significand place

end Literal

end BackendMonitor.Json
