/-!
# Base sixteen

Digits of base sixteen, in any case.
-/

namespace BackendMonitor.Text

/-- The value of a digit of base sixteen. -/
def hexValue? (c : Char) : Option Nat :=
  let n := c.toNat
  if 0x30 ≤ n && n ≤ 0x39 then some (n - 0x30)
  else if 0x41 ≤ n && n ≤ 0x46 then some (n - 0x41 + 10)
  else if 0x61 ≤ n && n ≤ 0x66 then some (n - 0x61 + 10)
  else none

end BackendMonitor.Text
