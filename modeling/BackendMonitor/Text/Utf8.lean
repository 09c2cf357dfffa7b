/-!
# UTF-8

A byte sequence is cut into pieces: characters, runs of bytes that no character has, and at the
very end possibly the start of a character that the sequence does not finish. A run of bytes that
no character has is the longest start of a character that the next byte contradicts, or one byte
where no character starts.

* `pieces` cuts the whole sequence;
* `text?` is the text of a sequence that is UTF-8;
* `decodeLossy` puts U+FFFD for every piece that is no character;
* `firstDefect` finds where a sequence stops being UTF-8.
-/

namespace BackendMonitor.Text.Utf8

/-- A piece of a byte sequence. -/
inductive Piece where
  | char (c : Char)
  /-- Bytes, `width` of them, that no character has. -/
  | illFormed (width : Nat)
  /-- The last bytes of the sequence, which start a character and do not finish it. -/
  | unfinished
deriving DecidableEq, Repr

/-- How a character goes on after its first byte: the number of bytes to come, the bounds of the
next of them, and the value read so far. -/
structure Lead where
  owed : Nat
  low : UInt8
  high : UInt8
  value : Nat

/-- The bytes that start a character of two bytes or more. The bounds on the second byte keep out
longer spellings than needed, surrogates, and values above U+10FFFF. -/
def lead? (b : UInt8) : Option Lead :=
  let n := b.toNat
  if 0xC2 ≤ n && n ≤ 0xDF then some ⟨1, 0x80, 0xBF, n - 0xC0⟩
  else if n == 0xE0 then some ⟨2, 0xA0, 0xBF, 0⟩
  else if n == 0xED then some ⟨2, 0x80, 0x9F, 0xD⟩
  else if 0xE1 ≤ n && n ≤ 0xEF then some ⟨2, 0x80, 0xBF, n - 0xE0⟩
  else if n == 0xF0 then some ⟨3, 0x90, 0xBF, 0⟩
  else if 0xF1 ≤ n && n ≤ 0xF3 then some ⟨3, 0x80, 0xBF, n - 0xF0⟩
  else if n == 0xF4 then some ⟨3, 0x80, 0x8F, 4⟩
  else none

/-- Reads the bytes that a character still owes, after `seen` of its bytes. -/
def finish (seen : Nat) (low high : UInt8) (value : Nat) : Nat → List UInt8 → Piece × List UInt8
  | 0, rest => (.char (Char.ofNat value), rest)
  | _ + 1, [] => (.unfinished, [])
  | owed + 1, b :: rest =>
    if low ≤ b && b ≤ high then
      finish (seen + 1) 0x80 0xBF (value * 64 + (b.toNat - 0x80)) owed rest
    else
      (.illFormed seen, b :: rest)

/-- The piece that starts with byte `b`, and what follows it. -/
def piece (b : UInt8) (rest : List UInt8) : Piece × List UInt8 :=
  if b < 0x80 then (.char (Char.ofNat b.toNat), rest)
  else
    match lead? b with
    | some l => finish 1 l.low l.high l.value l.owed rest
    | none => (.illFormed 1, rest)

theorem length_finish_le (seen : Nat) (low high : UInt8) (value owed : Nat) (bs : List UInt8) :
    (finish seen low high value owed bs).2.length ≤ bs.length := by
  induction owed generalizing seen low high value bs with
  | zero => simp [finish]
  | succ owed ih =>
    cases bs with
    | nil => simp [finish]
    | cons b rest =>
      rw [finish]
      split
      · exact Nat.le_succ_of_le (ih ..)
      · exact Nat.le_refl _

theorem length_piece_le (b : UInt8) (rest : List UInt8) :
    (piece b rest).2.length ≤ rest.length := by
  unfold piece
  split
  · exact Nat.le_refl _
  · split
    · exact length_finish_le ..
    · exact Nat.le_refl _

/-- The pieces of a byte sequence, in order. -/
def pieces : List UInt8 → List Piece
  | [] => []
  | b :: rest => (piece b rest).1 :: pieces (piece b rest).2
termination_by bs => bs.length
decreasing_by exact Nat.lt_succ_of_le (length_piece_le b rest)

/-- The character of a piece. -/
def Piece.char? : Piece → Option Char
  | .char c => some c
  | _ => none

/-- The characters of a byte sequence, with `none` for each piece that is no character. -/
def decode (bytes : List UInt8) : List (Option Char) :=
  (pieces bytes).map Piece.char?

/-- The text of a byte sequence, if all its pieces are characters. -/
def text? (bytes : List UInt8) : Option String :=
  ((pieces bytes).mapM Piece.char?).map String.ofList

/-- The text of a byte sequence, with U+FFFD for each piece that is no character. -/
def decodeLossy (bytes : List UInt8) : String :=
  String.ofList ((decode bytes).map (·.getD '\uFFFD'))

/-- Where and how a byte sequence stops being UTF-8. -/
structure Defect where
  /-- The number of bytes before it. -/
  offset : Nat
  /-- The number of bytes that no character has; `none` where the sequence ends too early. -/
  width : Option Nat
deriving DecidableEq, Repr

/-- The first piece that is no character, given how many bytes came before. -/
def firstDefectFrom (offset : Nat) : List Piece → Option Defect
  | [] => none
  | .char c :: rest => firstDefectFrom (offset + c.utf8Size) rest
  | .illFormed width :: _ => some ⟨offset, some width⟩
  | .unfinished :: _ => some ⟨offset, none⟩

/-- The first defect of a byte sequence; `none` for UTF-8. -/
def firstDefect (bytes : List UInt8) : Option Defect :=
  firstDefectFrom 0 (pieces bytes)

/-- The wording of a defect. -/
def Defect.message (d : Defect) : String :=
  match d.width with
  | some n => s!"invalid utf-8 sequence of {n} bytes from index {d.offset}"
  | none => s!"incomplete utf-8 byte sequence from index {d.offset}"

end BackendMonitor.Text.Utf8
