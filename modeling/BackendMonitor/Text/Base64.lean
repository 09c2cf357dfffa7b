/-!
# Base 64

Bytes as letters: three bytes are four digits of six bits each. Where bytes are missing at the end,
equals signs stand for the digits that would only hold zeros.
-/

namespace BackendMonitor.Text.Base64

/-- A digit of six bits. -/
def digit (n : Nat) : Char :=
  if n < 26 then Char.ofNat (0x41 + n)
  else if n < 52 then Char.ofNat (0x61 + (n - 26))
  else if n < 62 then Char.ofNat (0x30 + (n - 52))
  else if n = 62 then '+'
  else '/'

/-- The four digits of a number of 24 bits. -/
def digits (n : Nat) : List Char :=
  [digit (n / 0x40000 % 64), digit (n / 0x1000 % 64), digit (n / 0x40 % 64), digit (n % 64)]

/-- Bytes in base 64. -/
def encode : List UInt8 → List Char
  | [] => []
  | [a] => (digits (a.toNat * 0x10000)).take 2 ++ ['=', '=']
  | [a, b] => (digits (a.toNat * 0x10000 + b.toNat * 0x100)).take 3 ++ ['=']
  | a :: b :: c :: rest =>
    digits (a.toNat * 0x10000 + b.toNat * 0x100 + c.toNat) ++ encode rest

end BackendMonitor.Text.Base64
