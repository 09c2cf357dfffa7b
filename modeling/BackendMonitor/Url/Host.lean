import BackendMonitor.Url.Domain
import BackendMonitor.Url.Escape

/-!
# Hosts

The host of an address: a name, or a number of the internet protocol in version 4 or 6. A name
whose last label is a number has to be such a number; the spellings in base 8 and 16 and with fewer
than four parts are understood, and written in the usual way.
-/

namespace BackendMonitor.Url

open Text (hexValue?)

/-- The host of an address. -/
inductive Host where
  /-- A name, in the characters of ASCII. It may be empty in addresses that need no host. -/
  | name (text : List Char)
  | version4 (address : Nat)
  /-- Eight groups of 16 bits. -/
  | version6 (groups : List Nat)
deriving DecidableEq, Repr

/-! ## Numbers -/

/-- The value of digits in a base of at most sixteen, with all of them allowed. -/
def numberIn? (base : Nat) (cs : List Char) : Option Nat :=
  cs.foldl
    (fun n c => do
      let d ← hexValue? c
      if d < base then some ((← n) * base + d) else none)
    (some 0)

/-- A part of a number of version 4. Base 16 starts with `0x`, base 8 with another zero. -/
def number? : List Char → Option Nat
  | [] => none
  | '0' :: 'x' :: cs | '0' :: 'X' :: cs => numberIn? 16 cs
  | '0' :: c :: cs => numberIn? 8 (c :: cs)
  | cs => numberIn? 10 cs

/-- The labels of a name; a dot at its end does not count. -/
def labels (cs : List Char) : List (List Char) :=
  let all := Text.pieces '.' cs
  if all.getLast? = some [] then all.dropLast else all

/-- Whether the last label is a number, so that the name has to be one. -/
def endsInNumber (cs : List Char) : Bool :=
  match (labels cs).getLast? with
  | some label => !label.isEmpty && (label.all Char.isDigit || (number? label).isSome)
  | none => false

/-- A number of version 4 from the values of its parts: each stands for one byte, and the last for
all that are left. -/
def version4Of? (parts : List Nat) : Option Nat :=
  match parts.reverse with
  | [] => none
  | last :: front =>
    let room := Nat.pow 256 (4 - front.length)
    if 3 < front.length || front.any (255 < ·) || room ≤ last then none
    else some (front.reverse.foldl (fun n b => n * 256 + b) 0 * room + last)

/-- A number of version 4. -/
def version4? (cs : List Char) : Option Nat :=
  ((labels cs).mapM number?).bind version4Of?

/-- Four bytes as digits with dots between them, without needless zeros. -/
def dotted? (cs : List Char) : Option Nat :=
  let part? (piece : List Char) : Option Nat :=
    match piece with
    | '0' :: _ :: _ | [] => none
    | piece => (numberIn? 10 piece).filter (· ≤ 255)
  match Text.pieces '.' cs with
  | [a, b, c, d] => ([a, b, c, d].mapM part?).map (·.foldl (fun n b => n * 256 + b) 0)
  | _ => none

/-- One group of a number of version 6. -/
def group? (cs : List Char) : Option Nat :=
  if cs.isEmpty || 4 < cs.length then none else numberIn? 16 cs

/-- Groups with colons between them; the last two may be written as four bytes. -/
def groups? : List (List Char) → Option (List Nat)
  | [] => some []
  | [last] =>
    match dotted? last with
    | some n => some [n / 0x10000, n % 0x10000]
    | none => (group? last).map ([·])
  | piece :: pieces => do return (← group? piece) :: (← groups? pieces)

/-- The groups in a text that may be empty. -/
def groupsOf? (cs : List Char) : Option (List Nat) :=
  if cs.isEmpty then some [] else groups? (Text.pieces ':' cs)

/-- Cuts a text at the first pair of colons. -/
def cutAtGap : List Char → Option (List Char × List Char)
  | ':' :: ':' :: rest => some ([], rest)
  | c :: rest => (cutAtGap rest).map fun (front, back) => (c :: front, back)
  | [] => none

/-- A number of version 6. One pair of colons stands for the groups that are left out. -/
def version6? (cs : List Char) : Option (List Nat) :=
  match cutAtGap cs with
  | none => (groupsOf? cs).filter (·.length == 8)
  | some (front, back) => do
    if front.contains '.' then none
    let front ← groupsOf? front
    let back ← groupsOf? back
    if front.length + back.length < 8 then
      some (front ++ List.replicate (8 - front.length - back.length) 0 ++ back)
    else none

/-! ## Reading -/

/-- The host of an address of the web. -/
def Host.ofText? (cs : List Char) : Option Host :=
  match cs with
  | '[' :: rest =>
    if rest.getLast? = some ']' then (version6? rest.dropLast).map .version6 else none
  | cs => do
    let text ← Text.Utf8.text? (unescape cs)
    let name ← Domain.toAscii? text.toList
    if name.isEmpty then none
    else if endsInNumber name then (version4? name).map .version4
    else some (.name name)

/-- The characters that the host of an address of another kind cannot have. -/
def isForbiddenVerbatim (c : Char) : Bool :=
  ['\x00', '\t', '\n', '\r', ' ', '#', '/', ':', '<', '>', '?', '@', '[', '\\', ']', '^',
    '|'].contains c

/-- The host of an address of another kind, which is taken as it is. -/
def Host.verbatim? (cs : List Char) : Option Host :=
  match cs with
  | '[' :: rest =>
    if rest.getLast? = some ']' then (version6? rest.dropLast).map .version6 else none
  | cs => if cs.any isForbiddenVerbatim then none else some (.name (escape .verbatim cs))

/-! ## Writing -/

/-- The four bytes of a number of version 4. -/
def bytes4 (n : Nat) : List Nat :=
  [n / 0x1000000 % 256, n / 0x10000 % 256, n / 0x100 % 256, n % 256]

/-- How many zeros a list starts with. -/
def zeros (groups : List Nat) : Nat :=
  (groups.takeWhile (· == 0)).length

/-- The longest run of zeros: where it begins, and its length. Of several the first counts. -/
def longestZeros : Nat → List Nat → Nat × Nat
  | _, [] => (0, 0)
  | start, g :: gs =>
    let rest := longestZeros (start + 1) gs
    if 0 < zeros (g :: gs) && rest.2 ≤ zeros (g :: gs) then (start, zeros (g :: gs)) else rest

/-- Groups with colons between them. -/
def writeGroups (groups : List Nat) : List Char :=
  [':'].intercalate (groups.map (Nat.toDigits 16))

/-- A number of version 6. The longest run of zeros is left out, if it has more than one. -/
def write6 (groups : List Nat) : List Char :=
  let (start, length) := longestZeros 0 groups
  if length < 2 then writeGroups groups
  else writeGroups (groups.take start) ++ [':', ':'] ++ writeGroups (groups.drop (start + length))

/-- A host as it stands in an address. -/
def Host.toText : Host → List Char
  | .name text => text
  | .version4 n => ['.'].intercalate ((bytes4 n).map (Nat.toDigits 10))
  | .version6 groups => '[' :: (write6 groups ++ [']'])

/-- A host as it is looked up, without the brackets that keep it apart from a port. -/
def Host.bareText : Host → List Char
  | .version6 groups => write6 groups
  | h => h.toText

end BackendMonitor.Url
