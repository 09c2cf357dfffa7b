import BackendMonitor.Text.Hex
import BackendMonitor.Text.Utf8

/-!
# Percent escapes

Where a character must not stand in a part of an address, its bytes are written instead, each as a
percent sign and two digits.

* `escape` writes a text so that it may stand in a part of an address;
* `unescape` gives the bytes that are meant by it.
-/

namespace BackendMonitor.Url

open Text (hexValue?)

/-- The parts of an address that have characters to escape. -/
inductive Part where
  | path
  | query
  /-- The query of an address of the web. -/
  | webQuery
  | fragment
  /-- A path without segments, and the host of an address of another kind. -/
  | verbatim
deriving DecidableEq, Repr

/-- The characters that are escaped in every part: controls, and all beyond ASCII. -/
def isOutsidePrint (c : Char) : Bool :=
  c.toNat < 0x20 || 0x7E < c.toNat

/-- The characters of print that are escaped in a part. -/
def Part.reserved : Part → List Char
  | .path => [' ', '"', '<', '>', '`', '#', '?', '\x7b', '\x7d']
  | .query => [' ', '"', '<', '>', '#']
  | .webQuery => [' ', '"', '<', '>', '#', '\'']
  | .fragment => [' ', '"', '<', '>', '`']
  | .verbatim => []

/-- Whether a character is escaped in a part. -/
def Part.escapes (p : Part) (c : Char) : Bool :=
  isOutsidePrint c || p.reserved.contains c

/-- A digit of base sixteen, in upper case. -/
def hexDigit (n : Nat) : Char :=
  if n < 10 then Char.ofNat (0x30 + n) else Char.ofNat (0x41 + n - 10)

/-- A byte, escaped. -/
def escapeByte (b : UInt8) : List Char :=
  ['%', hexDigit (b.toNat / 16), hexDigit (b.toNat % 16)]

/-- A character as it stands in a part. -/
def escapeChar (p : Part) (c : Char) : List Char :=
  if p.escapes c then (String.utf8EncodeChar c).flatMap escapeByte else [c]

/-- A text as it stands in a part. -/
def escape (p : Part) (cs : List Char) : List Char :=
  cs.flatMap (escapeChar p)

/-- The bytes that a text means. A percent sign without two digits means itself. -/
def unescape : List Char → List UInt8
  | [] => []
  | '%' :: a :: b :: rest =>
    match hexValue? a, hexValue? b with
    | some x, some y => UInt8.ofNat (16 * x + y) :: unescape rest
    | _, _ => 0x25 :: unescape (a :: b :: rest)
  | c :: rest => String.utf8EncodeChar c ++ unescape rest
termination_by cs => cs.length

end BackendMonitor.Url
