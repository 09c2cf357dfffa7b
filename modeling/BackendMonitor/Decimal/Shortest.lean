import BackendMonitor.Decimal.Binary

/-!
# The shortest decimal that reads back

Of all decimals `digits · 10 ^ place` that round to a given binary fraction, `shortest` gives one
with the greatest `place`, hence with the fewest digits; of two it gives the nearer, and of two
equally near the even one. It goes down the decimal places one by one, and on each place looks at
the two neighbours of the number: if any multiple of `10 ^ place` rounds to the number, so does
one of these two.
-/

namespace BackendMonitor.Decimal

/-- The decimal `digits · 10 ^ place`. -/
structure Scaled where
  digits : Nat
  place : Int
deriving DecidableEq, Repr

/-- The interval of the numbers that round to a binary fraction, and the fraction itself, over a
common denominator. -/
structure Window where
  low : Nat
  value : Nat
  high : Nat
  denominator : Nat
  closed : Bool

/-- The interval of a binary fraction, measured in units of `10 ^ place`. -/
def Window.at (b : Binary) (place : Int) : Window :=
  let twos := b.exponent - 2
  let up := Nat.pow 2 twos.toNat * Nat.pow 10 (-place).toNat
  { low := b.low * up
    value := b.quarters * up
    high := b.high * up
    denominator := Nat.pow 2 (-twos).toNat * Nat.pow 10 place.toNat
    closed := b.closed }

/-- Whether the whole number `n` lies in the interval. -/
def Window.holds (w : Window) (n : Nat) : Bool :=
  let m := n * w.denominator
  if w.closed then w.low ≤ m && m ≤ w.high else w.low < m && m < w.high

/-- The whole number in the interval that is nearest to the value, of the value's two
neighbours. -/
def Window.nearest? (w : Window) : Option Nat :=
  let below := w.value / w.denominator
  let left := w.value % w.denominator
  match w.holds below, w.holds (below + 1) with
  | true, false => some below
  | false, true => some (below + 1)
  | false, false => none
  | true, true =>
    if 2 * left < w.denominator then some below
    else if 2 * left > w.denominator then some (below + 1)
    else if below % 2 = 0 then some below else some (below + 1)

/-- A place whose unit exceeds the number. -/
def startingPlace (b : Binary) : Int :=
  ((b.quarters.log2 : Int) + (b.exponent - 2) + 1) * 30103 / 100000 + 1

/-- Goes down from `place`, over `steps` places at most. -/
def search (b : Binary) (place : Int) : Nat → Scaled
  | 0 => ⟨(Window.at b place).value / (Window.at b place).denominator, place⟩
  | steps + 1 =>
    match (Window.at b place).nearest? with
    | some digits => ⟨digits, place⟩
    | none => search b (place - 1) steps

/-- The shortest decimal that rounds to a binary fraction. Seventeen digits always do, and the
starting place is at most two above the first digit. -/
def shortest (b : Binary) : Scaled :=
  if b.mantissa = 0 then ⟨0, 0⟩ else search b (startingPlace b) 20

end BackendMonitor.Decimal
