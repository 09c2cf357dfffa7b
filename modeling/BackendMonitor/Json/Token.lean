import BackendMonitor.Json.Literal
import BackendMonitor.Text.Hex

/-!
# Tokens

The words of a document. Cutting a document into tokens never fails: where the text breaks the
rules of a word, the token says so, and whoever reads on decides whether it matters. Texts and
numbers can be kept or skipped, and skipping asks for less: a skipped text may hold half of a
surrogate pair, and a skipped number may be beyond every range. So a broken token carries two
faults, one for either use.

* `tokens` cuts a document; `tokens_cons` is its rule;
* nothing is looked at behind a broken token.
-/

namespace BackendMonitor.Json

/-- A character of a document; `none` where its bytes are no character. -/
abbrev Glyph := Option Char

/-- A word of a document. -/
inductive Token where
  | openBrace
  | closeBrace
  | openBracket
  | closeBracket
  | comma
  | colon
  | null
  | bool (value : Bool)
  | number (literal : Literal)
  /-- A text, or what keeps it from being one. -/
  | text (content : Except Fault String)
  /-- A text that cannot even be skipped. -/
  | brokenText (kept skipped : Fault)
  /-- A word or a number that breaks off. -/
  | broken (kept skipped : Fault)
  /-- A character that starts no word. -/
  | stray

/-- Whether a character separates words. -/
def isSpace : Glyph → Bool
  | some c => c == ' ' || c == '\t' || c == '\n' || c == '\r'
  | none => false

/-! ## Words -/

/-- Reads the rest of a fixed word. -/
def word (token : Token) : List Char → List Glyph → Token × List Glyph
  | [], rest => (token, rest)
  | _ :: _, [] => (.broken .endInValue .endInValue, [])
  | c :: cs, g :: rest =>
    if g = some c then word token cs rest else (.broken .expectedWord .expectedWord, [])

/-! ## Numbers -/

/-- Whether a character is a digit. -/
def isDigit : Glyph → Bool
  | some c => c.isDigit
  | none => false

/-- The digits at the start of a document, and the rest. -/
def takeDigits : List Glyph → List Char × List Glyph
  | some c :: rest =>
    if c.isDigit then
      let (digits, more) := takeDigits rest
      (c :: digits, more)
    else ([], some c :: rest)
  | rest => ([], rest)

/-- The token for a number that lacks a digit where `rest` starts. -/
def brokenNumber (rest : List Glyph) : Token × List Glyph :=
  match rest with
  | [] => (.broken .endInValue .invalidNumber, [])
  | _ => (.broken .invalidNumber .invalidNumber, [])

/-- Reads what follows the mark of an exponent. -/
def exponentPart (l : Literal) (rest : List Glyph) : Token × List Glyph :=
  let (minus, rest) := match rest with
    | some '-' :: more => (true, more)
    | some '+' :: more => (false, more)
    | more => (false, more)
  let (digits, rest) := takeDigits rest
  if digits.isEmpty then brokenNumber rest
  else (.number { l with exponent := some (minus, digits) }, rest)

/-- Reads an exponent, if there is one. -/
def exponent (l : Literal) : List Glyph → Token × List Glyph
  | some 'e' :: rest => exponentPart l rest
  | some 'E' :: rest => exponentPart l rest
  | rest => (.number l, rest)

/-- Reads a fraction and an exponent, if there are any. -/
def fraction (l : Literal) : List Glyph → Token × List Glyph
  | some '.' :: rest =>
    let (digits, rest) := takeDigits rest
    if digits.isEmpty then brokenNumber rest else exponent { l with fraction := digits } rest
  | rest => exponent l rest

/-- Reads a number after its sign. A leading zero stands alone. -/
def number (negative : Bool) (rest : List Glyph) : Token × List Glyph :=
  let (digits, after) := takeDigits rest
  match digits with
  | [] => brokenNumber after
  | '0' :: _ :: _ => (.broken .invalidNumber .invalidNumber, [])
  | _ => fraction ⟨negative, digits, [], none⟩ after

/-! ## Texts -/

/-- What has been read of a text: its characters, newest first, and the first half of a surrogate
pair whose second half is still to come. -/
structure Draft where
  content : Except Fault (List Glyph)
  high : Option Nat

namespace Draft

/-- Spoils a text that was well so far. -/
def spoil (d : Draft) (fault : Fault) : Draft :=
  ⟨d.content.bind fun _ => .error fault, none⟩

/-- Spoils a text in which the first half of a surrogate pair is not followed by an escape. -/
def unpaired (d : Draft) : Draft :=
  if d.high.isSome then d.spoil .unfinishedSurrogatePair else d

/-- Adds a character. -/
def push (d : Draft) (g : Glyph) : Draft :=
  ⟨d.content.map (g :: ·), none⟩

/-- Adds the character or the half of a surrogate pair with the given number. -/
def pushUnit (d : Draft) (n : Nat) : Draft :=
  match d.high with
  | none =>
    if 0xDC00 ≤ n && n ≤ 0xDFFF then d.spoil .loneSurrogate
    else if 0xD800 ≤ n && n ≤ 0xDBFF then ⟨d.content, some n⟩
    else d.push (some (Char.ofNat n))
  | some h =>
    if 0xDC00 ≤ n && n ≤ 0xDFFF then
      d.push (some (Char.ofNat (0x10000 + (h - 0xD800) * 0x400 + (n - 0xDC00))))
    else d.spoil .loneSurrogate

/-- The token of a text that ends here. -/
def close (d : Draft) : Token :=
  .text <| d.unpaired.content.bind fun glyphs =>
    match glyphs.reverse.mapM id with
    | some cs => .ok (String.ofList cs)
    | none => .error .illFormedBytes

/-- The token of a text that breaks off with a fault. -/
def breakOff (d : Draft) (fault : Fault) : Token :=
  match d.content with
  | .ok _ => .brokenText fault fault
  | .error first => .brokenText first fault

end Draft

/-- The character that a backslash and one letter spell. -/
def shortEscape? (c : Char) : Option Char :=
  match c with
  | '"' => some '"'
  | '\\' => some '\\'
  | '/' => some '/'
  | 'b' => some '\x08'
  | 'f' => some '\x0c'
  | 'n' => some '\n'
  | 'r' => some '\r'
  | 't' => some '\t'
  | _ => none

/-- The value of four digits in base sixteen. -/
def hexUnit? (a b c d : Glyph) : Option Nat := do
  let a ← a.bind Text.hexValue?
  let b ← b.bind Text.hexValue?
  let c ← c.bind Text.hexValue?
  let d ← d.bind Text.hexValue?
  return ((a * 16 + b) * 16 + c) * 16 + d

/-- The number of bytes of a piece of a document. -/
def byteCount (gs : List Glyph) : Nat :=
  gs.foldl (fun n g => n + (g.map Char.utf8Size).getD 1) 0

/-- Whether a text must spell this character with a backslash. -/
def isControl : Glyph → Bool
  | some c => c.toNat < 0x20
  | none => false

/-- Reads a text after its opening quote. -/
def quoted (d : Draft) : List Glyph → Token × List Glyph
  | [] => (d.breakOff .endInText, [])
  | some '"' :: rest => (d.close, rest)
  | some '\\' :: [] => (d.breakOff .endInText, [])
  | some '\\' :: some 'u' :: a :: b :: c :: e :: rest =>
    match hexUnit? a b c e with
    | some n => quoted (d.pushUnit n) rest
    | none => (d.breakOff .invalidEscape, [])
  | some '\\' :: some 'u' :: rest =>
    (d.breakOff (if byteCount rest < 4 then .endInText else .invalidEscape), [])
  | some '\\' :: some c :: rest =>
    match shortEscape? c with
    | some e => quoted (d.unpaired.push (some e)) rest
    | none => (d.unpaired.breakOff .invalidEscape, [])
  | some '\\' :: none :: _ => (d.unpaired.breakOff .invalidEscape, [])
  | g :: rest =>
    if isControl g then (d.unpaired.breakOff .controlCharacter, [])
    else quoted (d.unpaired.push g) rest

/-! ## Documents -/

/-- The token that starts with a character, and what follows it. -/
def lexeme (g : Glyph) (rest : List Glyph) : Token × List Glyph :=
  match g with
  | some '\x7b' => (.openBrace, rest)
  | some '\x7d' => (.closeBrace, rest)
  | some '[' => (.openBracket, rest)
  | some ']' => (.closeBracket, rest)
  | some ',' => (.comma, rest)
  | some ':' => (.colon, rest)
  | some '"' => quoted ⟨.ok [], none⟩ rest
  | some 'n' => word .null ['u', 'l', 'l'] rest
  | some 't' => word (.bool true) ['r', 'u', 'e'] rest
  | some 'f' => word (.bool false) ['a', 'l', 's', 'e'] rest
  | some '-' => number true rest
  | g => if isDigit g then number false (g :: rest) else (.stray, [])

/-- The first tokens of a document, `limit` characters deep. -/
def tokensWithin : Nat → List Glyph → List Token
  | 0, _ => []
  | _ + 1, [] => []
  | limit + 1, g :: rest =>
    if isSpace g then tokensWithin limit rest
    else (lexeme g rest).1 :: tokensWithin limit (lexeme g rest).2

/-- The tokens of a document. -/
def tokens (gs : List Glyph) : List Token :=
  tokensWithin gs.length gs

/-! ## Every token shortens the document -/

theorem length_word_le (t : Token) (cs : List Char) (rest : List Glyph) :
    (word t cs rest).2.length ≤ rest.length := by
  induction cs generalizing rest with
  | nil => simp [word]
  | cons c cs ih =>
    cases rest with
    | nil => simp [word]
    | cons g rest =>
      rw [word]
      split
      · exact Nat.le_succ_of_le (ih rest)
      · simp

theorem length_takeDigits_le (gs : List Glyph) : (takeDigits gs).2.length ≤ gs.length := by
  fun_induction takeDigits gs with
  | case1 c rest h digits more heq ih => simp_all; omega
  | case2 => simp
  | case3 => simp

theorem length_brokenNumber_le (gs : List Glyph) : (brokenNumber gs).2.length ≤ gs.length := by
  unfold brokenNumber
  split <;> simp

theorem length_exponentPart_le (l : Literal) (gs : List Glyph) :
    (exponentPart l gs).2.length ≤ gs.length := by
  have key : ∀ (minus : Bool) (more : List Glyph), more.length ≤ gs.length →
      (let (digits, rest) := takeDigits more
       if digits.isEmpty then brokenNumber rest
       else (Token.number { l with exponent := some (minus, digits) }, rest)).2.length
        ≤ gs.length := by
    intro minus more h
    have h1 := length_takeDigits_le more
    have h2 := length_brokenNumber_le (takeDigits more).2
    simp only
    split
    · omega
    · simpa using Nat.le_trans h1 h
  unfold exponentPart
  split
  next minus rest heq =>
    apply key
    split at heq <;> simp_all

theorem length_exponent_le (l : Literal) (gs : List Glyph) :
    (exponent l gs).2.length ≤ gs.length := by
  unfold exponent
  split
  · exact Nat.le_succ_of_le (length_exponentPart_le ..)
  · exact Nat.le_succ_of_le (length_exponentPart_le ..)
  · exact Nat.le_refl _

theorem length_fraction_le (l : Literal) (gs : List Glyph) :
    (fraction l gs).2.length ≤ gs.length := by
  unfold fraction
  split
  · next rest =>
    have h1 := length_takeDigits_le rest
    have h2 := length_brokenNumber_le (takeDigits rest).2
    have h3 := length_exponent_le { l with fraction := (takeDigits rest).1 } (takeDigits rest).2
    simp only [List.length_cons]
    split
    · omega
    · omega
  · exact length_exponent_le ..

/-- A number takes at least the digit that it starts with, if there is one. -/
theorem length_number_le (negative : Bool) (gs : List Glyph) :
    (number negative gs).2.length ≤ gs.length := by
  have h1 := length_takeDigits_le gs
  unfold number
  simp only
  split
  · have := length_brokenNumber_le (takeDigits gs).2
    omega
  · simp
  · have := length_fraction_le ⟨negative, (takeDigits gs).1, [], none⟩ (takeDigits gs).2
    omega

theorem length_number_digit_le {g : Glyph} (h : isDigit g = true) (negative : Bool)
    (rest : List Glyph) : (number negative (g :: rest)).2.length ≤ rest.length := by
  obtain ⟨c, rfl⟩ : ∃ c, g = some c := by
    cases g with
    | none => simp [isDigit] at h
    | some c => exact ⟨c, rfl⟩
  have hc : c.isDigit = true := h
  have h1 := length_takeDigits_le rest
  have hd : takeDigits (some c :: rest) = (c :: (takeDigits rest).1, (takeDigits rest).2) := by
    simp [takeDigits, hc]
  unfold number
  rw [hd]
  simp only
  split
  · next h => simp at h
  · simp
  · have := length_fraction_le ⟨negative, c :: (takeDigits rest).1, [], none⟩ (takeDigits rest).2
    omega

theorem length_quoted_le (d : Draft) (gs : List Glyph) :
    (quoted d gs).2.length ≤ gs.length := by
  fun_induction quoted d gs <;> simp_all <;> omega

theorem length_lexeme_le (g : Glyph) (rest : List Glyph) :
    (lexeme g rest).2.length ≤ rest.length := by
  unfold lexeme
  split
  iterate 6 exact Nat.le_refl _
  · exact length_quoted_le ..
  iterate 3 exact length_word_le ..
  · exact length_number_le ..
  · split
    · next h => exact length_number_digit_le h false rest
    · simp

/-- A limit at least as large as the document changes nothing. -/
theorem tokensWithin_of_le (n m : Nat) (gs : List Glyph) (hn : gs.length ≤ n)
    (hm : gs.length ≤ m) : tokensWithin n gs = tokensWithin m gs := by
  induction n generalizing m gs with
  | zero =>
    obtain rfl : gs = [] := List.length_eq_zero_iff.1 (by omega)
    cases m <;> rfl
  | succ n ih =>
    cases gs with
    | nil => cases m <;> rfl
    | cons g rest =>
      cases m with
      | zero => simp at hm
      | succ m =>
        have h := length_lexeme_le g rest
        simp only [List.length_cons] at hn hm
        rw [tokensWithin, tokensWithin]
        split
        · exact ih m rest (by omega) (by omega)
        · rw [ih m _ (by omega) (by omega)]

@[simp] theorem tokens_nil : tokens [] = [] := rfl

/-- The tokens of a document: separators are left out, and each word is one token. -/
theorem tokens_cons (g : Glyph) (rest : List Glyph) :
    tokens (g :: rest) =
      if isSpace g then tokens rest else (lexeme g rest).1 :: tokens (lexeme g rest).2 := by
  rw [tokens, List.length_cons, tokensWithin]
  split
  · rfl
  · rw [tokens, tokensWithin_of_le rest.length _ _ (length_lexeme_le g rest) (Nat.le_refl _)]

end BackendMonitor.Json
