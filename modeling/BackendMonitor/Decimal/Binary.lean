/-!
# Binary fractions

A finite floating point number is a whole number times a power of two. The numbers that round to
it form an interval around it, which `Decimal/Shortest` searches for a short decimal.

* `Binary.ofFloat?` takes a number apart;
* `Binary.low`, `Binary.high` bound the interval, in quarters of the last binary place.
-/

namespace BackendMonitor.Decimal

/-- The number `mantissa · 2 ^ exponent`, or its negative. -/
structure Binary where
  negative : Bool
  mantissa : Nat
  exponent : Int
  /-- The number below has half the spacing of the number above. -/
  atBoundary : Bool
deriving DecidableEq, Repr

/-- The parts of a finite number; `none` for infinities and for what is no number. -/
def Binary.ofFloat? (x : Float) : Option Binary :=
  let bits := x.toBits.toNat
  let negative := bits >>> 63 == 1
  let scale : Nat := (bits >>> 52) % 0x800
  let field : Nat := bits % 0x10000000000000
  if scale = 0x7FF then none
  else if scale = 0 then some ⟨negative, field, -1074, false⟩
  else some ⟨negative, field + 0x10000000000000, (scale : Int) - 1075, field == 0 && 1 < scale⟩

/-- The magnitude, in units of `2 ^ (exponent - 2)`. -/
def Binary.quarters (b : Binary) : Nat :=
  4 * b.mantissa

/-- The least magnitude that rounds to this one, in units of `2 ^ (exponent - 2)`. -/
def Binary.low (b : Binary) : Nat :=
  if b.atBoundary then b.quarters - 1 else b.quarters - 2

/-- The greatest magnitude that rounds to this one, in units of `2 ^ (exponent - 2)`. -/
def Binary.high (b : Binary) : Nat :=
  b.quarters + 2

/-- Whether the two ends of the interval round to this number too: a tie goes to the even one. -/
def Binary.closed (b : Binary) : Bool :=
  b.mantissa % 2 == 0

end BackendMonitor.Decimal
