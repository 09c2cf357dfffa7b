/-!
# Bytes

Texts and numbers as bytes. Numbers are written with the greatest byte first.
-/

namespace BackendMonitor.Bytes

/-- The bytes of a text. -/
def ofText (s : String) : List UInt8 :=
  s.toUTF8.toList

/-- A number as bytes, `count` of them. What does not fit is cut off at the front. -/
def ofNat : Nat → Nat → List UInt8
  | 0, _ => []
  | count + 1, n => ofNat count (n / 256) ++ [UInt8.ofNat n]

/-- The number in bytes. -/
def toNat (bytes : List UInt8) : Nat :=
  bytes.foldl (fun n b => 256 * n + b.toNat) 0

end BackendMonitor.Bytes
