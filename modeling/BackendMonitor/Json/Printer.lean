import BackendMonitor.Decimal.Layout
import BackendMonitor.Json.Value

/-!
# Writing values

Two layouts: `compact` has no blanks at all, and `pretty` gives each element and member a line of
its own, two spaces deeper than the container; an empty container stays on its line. Members are
written in the order in which the object holds them.
-/

namespace BackendMonitor.Json

/-! ## Words -/

/-- A digit in base sixteen, in lower case. -/
def hexDigit (n : Nat) : Char :=
  if n < 10 then Char.ofNat ('0'.toNat + n) else Char.ofNat ('a'.toNat + (n - 10))

/-- A character inside a text: quotes, backslashes and controls are spelled with a backslash. -/
def escapeChar (c : Char) : List Char :=
  if c = '"' then ['\\', '"']
  else if c = '\\' then ['\\', '\\']
  else if c = '\x08' then ['\\', 'b']
  else if c = '\x0c' then ['\\', 'f']
  else if c = '\n' then ['\\', 'n']
  else if c = '\r' then ['\\', 'r']
  else if c = '\t' then ['\\', 't']
  else if c.toNat < 0x20 then
    ['\\', 'u', '0', '0', hexDigit (c.toNat / 16), hexDigit (c.toNat % 16)]
  else [c]

/-- A text between its quotes. -/
def writeText (s : String) : List Char :=
  '"' :: (s.toList.flatMap escapeChar ++ ['"'])

/-- A whole number. -/
def writeInt : Int → List Char
  | .ofNat n => Decimal.digitsOf n
  | .negSucc n => '-' :: Decimal.digitsOf (n + 1)

/-- A number. A floating point number that is not finite has no spelling, and is written `null`. -/
def Number.write : Number → List Char
  | .int i => writeInt i
  | .float x => (Decimal.write? x).getD ['n', 'u', 'l', 'l']

namespace Value

/-! ## Compact layout -/

mutual

/-- A value, without any blanks. -/
def compact : Value → List Char
  | .null => ['n', 'u', 'l', 'l']
  | .bool true => ['t', 'r', 'u', 'e']
  | .bool false => ['f', 'a', 'l', 's', 'e']
  | .number n => n.write
  | .text s => writeText s
  | .array [] => ['[', ']']
  | .array (x :: xs) => '[' :: (compact x ++ compactElements xs)
  | .object [] => ['\x7b', '\x7d']
  | .object ((k, v) :: ms) => '\x7b' :: (writeText k ++ ':' :: (compact v ++ compactMembers ms))

/-- Further elements, each behind a comma, and the end of the array. -/
def compactElements : List Value → List Char
  | [] => [']']
  | x :: xs => ',' :: (compact x ++ compactElements xs)

/-- Further members, each behind a comma, and the end of the object. -/
def compactMembers : List (String × Value) → List Char
  | [] => ['\x7d']
  | (k, v) :: ms => ',' :: (writeText k ++ ':' :: (compact v ++ compactMembers ms))

end

/-- A value as text, without any blanks. -/
def compactText (v : Value) : String :=
  String.ofList v.compact

/-! ## Pretty layout -/

/-- A new line at a depth. -/
def newLine (depth : Nat) : List Char :=
  '\n' :: List.replicate (2 * depth) ' '

mutual

/-- A value that starts at a depth. -/
def pretty (depth : Nat) : Value → List Char
  | .array [] => ['[', ']']
  | .array (x :: xs) => '[' :: (newLine (depth + 1) ++ pretty (depth + 1) x ++
      prettyElements depth xs)
  | .object [] => ['\x7b', '\x7d']
  | .object ((k, v) :: ms) => '\x7b' :: (newLine (depth + 1) ++ writeText k ++ ':' :: ' ' ::
      (pretty (depth + 1) v ++ prettyMembers depth ms))
  | .null => ['n', 'u', 'l', 'l']
  | .bool true => ['t', 'r', 'u', 'e']
  | .bool false => ['f', 'a', 'l', 's', 'e']
  | .number n => n.write
  | .text s => writeText s

/-- Further elements of an array at a depth, and its end. -/
def prettyElements (depth : Nat) : List Value → List Char
  | [] => newLine depth ++ [']']
  | x :: xs => ',' :: (newLine (depth + 1) ++ pretty (depth + 1) x ++ prettyElements depth xs)

/-- Further members of an object at a depth, and its end. -/
def prettyMembers (depth : Nat) : List (String × Value) → List Char
  | [] => newLine depth ++ ['\x7d']
  | (k, v) :: ms => ',' :: (newLine (depth + 1) ++ writeText k ++ ':' :: ' ' ::
      (pretty (depth + 1) v ++ prettyMembers depth ms))

end

/-- A value as text, one line for each element and member. -/
def prettyText (v : Value) : String :=
  String.ofList (v.pretty 0)

end Value

end BackendMonitor.Json
