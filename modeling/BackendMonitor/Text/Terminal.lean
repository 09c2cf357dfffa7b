/-!
# Texts without control sequences

What a terminal would show of a text: its characters and blanks, without the sequences that steer
the terminal. A sequence starts with an escape character. What follows it says of which kind the
sequence is, and thereby how it ends.

* `plain` is a text without its sequences and its other controls.

A blank control inside a sequence of the short kinds breaks it off, and shows. Inside of strings,
which are the long kinds, nothing shows.
-/

namespace BackendMonitor.Text.Terminal

/-- Where in a sequence the next character stands. -/
inductive Place where
  /-- Outside of every sequence. -/
  | ground
  /-- Behind an escape character. -/
  | escape
  /-- Behind an escape character and further characters that come before the last one. -/
  | escapeMore
  /-- In a control sequence, which a letter ends. -/
  | control
  /-- In the text of a command to the system, which a bell ends. -/
  | command
  /-- At the head of a device control string. -/
  | device
  /-- Behind the parameters at the head of a device control string. -/
  | deviceParameters
  /-- Behind further characters at the head of a device control string. -/
  | deviceMore
  /-- In a string that the terminator of strings ends. -/
  | body
deriving DecidableEq, Repr

/-- Whether a place is in a sequence of the short kinds, in which controls have their effect. -/
def Place.isShort : Place → Bool
  | .escape | .escapeMore | .control => true
  | _ => false

/-- The controls that show as blanks. -/
def isBlank (c : Char) : Bool :=
  c = '\t' || c = '\n' || c = '\x0c' || c = '\r'

/-- Whether a character has the byte that terminates strings among its own. Only its later bytes
can be that one. -/
def holdsTerminator (c : Char) : Bool :=
  (String.utf8EncodeChar c).contains 0x9C

/-- The place behind a character of print. -/
def Place.next (p : Place) (n : Nat) : Place :=
  let isIntermediate := n ≤ 0x2F
  let isParameter := n ≤ 0x3F
  match p with
  | .ground => .ground
  | .escape =>
    if isIntermediate then .escapeMore
    else if n == 0x5B then .control
    else if n == 0x5D then .command
    else if n == 0x50 then .device
    else if n == 0x58 || n == 0x5E || n == 0x5F then .body
    else .ground
  | .escapeMore => if isIntermediate then .escapeMore else .ground
  | .control => if isParameter then .control else .ground
  | .command => .command
  | .device =>
    if isIntermediate then .deviceMore else if isParameter then .deviceParameters else .body
  | .deviceParameters =>
    if isIntermediate then .deviceMore
    else if n ≤ 0x3B then .deviceParameters
    else .body
  | .deviceMore => if isIntermediate then .deviceMore else .body
  | .body => .body

/-- The place behind a character, and whether the character shows. -/
def step (p : Place) (c : Char) : Place × Bool :=
  let n := c.toNat
  if n == 0x1B then (.escape, false)
  else if n == 0x18 || n == 0x1A then (.ground, false)
  else if isBlank c && (p == .ground || p.isShort) then (.ground, true)
  else if n == 0x07 && p == .command then (.ground, false)
  else if n < 0x20 || n == 0x7F then (p, false)
  else if n < 0x7F then (p.next n, p == .ground)
  else if p == .body && holdsTerminator c then (.ground, false)
  else (p, p == .ground)

/-- The characters that show, the first of them at a place. -/
def plainFrom (p : Place) : List Char → List Char
  | [] => []
  | c :: cs =>
    match step p c with
    | (next, true) => c :: plainFrom next cs
    | (next, false) => plainFrom next cs

/-- A text without its sequences and its other controls. -/
def plain (s : String) : String :=
  String.ofList (plainFrom .ground s.toList)

end BackendMonitor.Text.Terminal
