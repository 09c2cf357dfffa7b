import BackendMonitor.Text.Composition
import BackendMonitor.Text.Direction
import BackendMonitor.Text.Joining
import BackendMonitor.Url.Domain.Folding
import BackendMonitor.Url.Punycode

/-!
# Names of hosts

A name consists of labels with dots between them. It may be given in the letters of any script, and
is written in ASCII: a label with other letters is encoded and marked.

* `toAscii?` writes a name in ASCII, if it is one.

Before that the characters are folded and composed, so that all spellings of a name come out as
one. A label that is given in its encoded form has to be one that encoding brings forth.
-/

namespace BackendMonitor.Url.Domain

open Text (Direction)

/-! ## Labels -/

/-- What an encoded label begins with. -/
def encodedMark : List Char := ['x', 'n', '-', '-']

/-- The greatest number of characters of a label with letters beyond ASCII. -/
def maxLetters : Nat := 1000

/-- The greatest number of characters of an encoded label behind its mark. -/
def maxEncoded : Nat := 2000

/-- A label. -/
structure Label where
  /-- The label in its letters. -/
  letters : List Char
  /-- The label as it is written in ASCII. -/
  ascii : List Char
deriving DecidableEq, Repr

/-- Whether letters are in the form that folding and composing give. -/
def isSettled (letters : List Char) : Bool :=
  letters.all isFolded && Text.compose letters = letters

/-- The label in an encoded form; behind the mark stands `code`. -/
def Label.ofCode? (code : List Char) : Option Label := do
  if code.getLast? = some '-' || maxEncoded < code.length then none
  let letters ← Punycode.decode? code
  if isSettled letters && !letters.isEmpty && !encodedMark.isPrefixOf letters then
    some ⟨letters, encodedMark ++ code⟩
  else none

/-- The label in a text that is folded and composed. -/
def Label.ofText? (cs : List Char) : Option Label :=
  if encodedMark.isPrefixOf cs then Label.ofCode? (cs.drop encodedMark.length)
  else if cs.all (·.toNat < 0x80) then some ⟨cs, cs⟩
  else if cs.length ≤ maxLetters then some ⟨cs, encodedMark ++ Punycode.encode cs⟩
  else none

/-! ## Rules -/

/-- The characters of ASCII that no name has. -/
def isForbidden (c : Char) : Bool :=
  c.toNat ≤ 0x20 || c.toNat == 0x7F ||
    ['%', '#', '/', ':', '<', '>', '?', '@', '[', '\\', ']', '^', '|'].contains c

/-- Whether the joiners in a label have an effect: they stand behind a sign that takes the vowel
from a letter, or keep two letters from joining. `before` is what stands before, in reverse
order. -/
def joinersMatter (before : List Char) : List Char → Bool
  | [] => true
  | c :: cs =>
    let behindVirama := before.head?.any fun b => Text.markClass b = Text.viramaClass
    let parts := (before.find? (!Text.isTransparent ·)).any Text.joinsNext &&
      (cs.find? (!Text.isTransparent ·)).any Text.joinsPrevious
    let matters :=
      if c = '\u200C' then behindVirama || parts else if c = '\u200D' then behindVirama else true
    matters && joinersMatter (c :: before) cs

/-- Whether letters may be those of a label. -/
def isLabel (letters : List Char) : Bool :=
  !letters.any isForbidden && !letters.head?.any Text.isMark && joinersMatter [] letters

/-- Whether a label has a character that is written from the right. -/
def hasRight (letters : List Char) : Bool :=
  letters.any fun c => Direction.of c = .right || Direction.of c = .arabicDigit

/-- Whether a label keeps its place in a name with characters that are written from the right. It
starts with a letter, keeps to the direction of that, and does not end with a symbol. -/
def keepsDirection (letters : List Char) : Bool :=
  let parts := letters.map Direction.of
  let core := (parts.reverse.dropWhile (· == .mark)).reverse
  match parts.head? with
  | none => true
  | some .left =>
    !core.contains .right && !core.contains .arabicDigit &&
      core.getLast?.any fun d => d = .left || d = .digit
  | some .right =>
    !core.contains .left && !(core.contains .digit && core.contains .arabicDigit) &&
      core.getLast?.any fun d => d = .right || d = .digit || d = .arabicDigit
  | _ => false

/-! ## Names -/

/-- A name in ASCII. -/
def toAscii? (cs : List Char) : Option (List Char) := do
  let folded ← cs.mapM fold?
  let labels ← (Text.pieces '.' (Text.compose folded.flatten)).mapM Label.ofText?
  let letters := labels.map Label.letters
  if letters.all isLabel && (!letters.any hasRight || letters.all keepsDirection) then
    some (['.'].intercalate (labels.map Label.ascii))
  else none

end BackendMonitor.Url.Domain
