import BackendMonitor.Text.Printable

/-!
# Quoted text

A text as it is shown to a reader: between double quotes, with a backslash before quotes and
backslashes, short spellings for the usual controls, and the number in braces for every other
character that does not show by itself.
-/

namespace BackendMonitor.Text

/-- A number in base sixteen, in lower case. -/
def hexText (n : Nat) : List Char :=
  Nat.toDigits 16 n

/-- A character by its number. -/
def escapeByNumber (c : Char) : List Char :=
  ['\\', 'u', '\x7b'] ++ hexText c.toNat ++ ['\x7d']

/-- A character inside a quoted text. -/
def quoteChar (c : Char) : List Char :=
  if c = '\x00' then ['\\', '0']
  else if c = '\t' then ['\\', 't']
  else if c = '\r' then ['\\', 'r']
  else if c = '\n' then ['\\', 'n']
  else if c = '\\' then ['\\', '\\']
  else if c = '"' then ['\\', '"']
  else if isPrintable c then [c]
  else escapeByNumber c

/-- A text between quotes. -/
def quoted (s : String) : String :=
  String.ofList ('"' :: (s.toList.flatMap quoteChar ++ ['"']))

end BackendMonitor.Text
