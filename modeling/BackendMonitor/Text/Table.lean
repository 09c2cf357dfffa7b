import BackendMonitor.Text.Hex
import BackendMonitor.Text.Pieces

/-!
# Tables of characters

What a standard lays down for many characters is kept as a text. It consists of rows with blanks
between them. A row is the number of a character, or the numbers of the first and the last of
several with a hyphen between them; behind a colon may follow further numbers, which tell more of
these characters. All numbers are in base sixteen.

* `Table.ofText` reads a table;
* `Table.holds` and `Table.valuesAt?` look a character up.
-/

namespace BackendMonitor.Text

/-- A row of a table. -/
structure Row where
  first : Nat
  last : Nat
  /-- What the row tells of its characters. -/
  values : List Nat
deriving DecidableEq, Repr

/-- A table of characters. -/
abbrev Table := List Row

/-- The number in base sixteen. Other characters than digits do not count. -/
def hexNumber (cs : List Char) : Nat :=
  (cs.filterMap hexValue?).foldl (fun n d => 16 * n + d) 0

namespace Row

/-- Whether a row is about a character. -/
def covers (r : Row) (n : Nat) : Bool :=
  r.first ≤ n && n ≤ r.last

/-- Reads a row. -/
def ofText (cs : List Char) : Row :=
  let bounds := (pieces '-' (cs.takeWhile (· ≠ ':'))).map hexNumber
  let values := match cs.dropWhile (· ≠ ':') with
    | _ :: more => (pieces ',' more).map hexNumber
    | [] => []
  { first := bounds.headD 0, last := bounds.getLastD 0, values := values }

end Row

namespace Table

/-- Reads a table. -/
def ofText (s : String) : Table :=
  let words := (s.splitOn "\n").flatMap (·.splitOn " ")
  (words.filter (!·.isEmpty)).map fun w => Row.ofText w.toList

/-- The row for a character. -/
def row? (t : Table) (c : Char) : Option Row :=
  t.find? (·.covers c.toNat)

/-- Whether a table has a row for a character. -/
def holds (t : Table) (c : Char) : Bool :=
  (t.row? c).isSome

/-- What a table tells of a character. -/
def valuesAt? (t : Table) (c : Char) : Option (List Nat) :=
  (t.row? c).map Row.values

end Table

end BackendMonitor.Text
