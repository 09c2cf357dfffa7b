import BackendMonitor.Json.Token

/-!
# Reading values

Two machines run over the tokens of a document, each with a stack of the containers that are
open. One keeps the value that it reads (`readValue`), the other only finds its end (`skip`). They
ask for different things: a kept value has bounded depth and numbers in range, a skipped one has
not; and behind a comma they word a missing element differently.

* `readValue` reads one value and gives the tokens behind it;
* `skip` passes over one value;
* `Value.ofText` reads a whole document.
-/

namespace BackendMonitor.Json

/-- The number of containers that may be open at once in what is kept of a document. -/
def depthLimit : Nat := 127

/-! ## Kept values -/

/-- A container that is open, with what it holds so far, newest first. -/
inductive Frame where
  | array (done : List Value)
  | object (done : List (String × Value))
  /-- An object whose last key still lacks its value. -/
  | member (done : List (String × Value)) (key : String)

/-- What may come next in a document. -/
inductive Expect where
  /-- A value. -/
  | value
  /-- The first element of an array, or its end. -/
  | firstElement
  /-- An element behind a comma. -/
  | element
  /-- The first key of an object, or its end. -/
  | firstKey
  /-- A key behind a comma. -/
  | key
  /-- The colon behind a key. -/
  | colon
  /-- A comma, or the end of the innermost container. -/
  | separator

/-- How reading goes on after a token. -/
inductive Progress (α : Type) where
  | more (expect : Expect) (stack : List α)
  | done (value : Value)

/-- Hands a finished value to the innermost open container. -/
def deliver (v : Value) : List Frame → Progress Frame
  | [] => .done v
  | .array done :: stack => .more .separator (.array (v :: done) :: stack)
  | .object done :: stack => .more .separator (.object done :: stack)
  | .member done key :: stack => .more .separator (.object ((key, v) :: done) :: stack)

/-- Opens a container, if `room` allows one more. -/
def enter (room : Nat) (expect : Expect) (frame : Frame) (stack : List Frame) :
    Except Fault (Progress Frame) :=
  if stack.length < room then .ok (.more expect (frame :: stack)) else .error .tooDeep

/-- Reads the token that starts a value. -/
def startValue (room : Nat) (stack : List Frame) : Token → Except Fault (Progress Frame)
  | .null => .ok (deliver .null stack)
  | .bool b => .ok (deliver (.bool b) stack)
  | .number l => l.value.map fun n => deliver (.number n) stack
  | .text content => content.map fun s => deliver (.text s) stack
  | .openBracket => enter room .firstElement (.array []) stack
  | .openBrace => enter room .firstKey (.object []) stack
  | .brokenText kept _ => .error kept
  | .broken kept _ => .error kept
  | _ => .error .expectedValue

/-- Reads a key, for the innermost container. -/
def startKey (stack : List Frame) : Token → Except Fault (Progress Frame)
  | .text content => content.map fun key =>
    match stack with
    | .object done :: stack => .more .colon (.member done key :: stack)
    | stack => .more .colon stack
  | .brokenText kept _ => .error kept
  | _ => .error .keyNotText

/-- Reads a comma or the end of the innermost container. -/
def separate (stack : List Frame) (t : Token) : Except Fault (Progress Frame) :=
  match stack, t with
  | .array _ :: _, .comma => .ok (.more .element stack)
  | .array done :: outer, .closeBracket => .ok (deliver (.array done.reverse) outer)
  | .array _ :: _, _ => .error .expectedCommaOrBracket
  | _, .comma => .ok (.more .key stack)
  | .object done :: outer, .closeBrace => .ok (deliver (Value.ofMembers done.reverse) outer)
  | _, _ => .error .expectedCommaOrBrace

/-- Reads one token. -/
def readToken (room : Nat) (expect : Expect) (stack : List Frame) (t : Token) :
    Except Fault (Progress Frame) :=
  match expect, t with
  | .value, t => startValue room stack t
  | .firstElement, .closeBracket => separate stack .closeBracket
  | .firstElement, t => startValue room stack t
  | .element, .closeBracket => .error .trailingComma
  | .element, t => startValue room stack t
  | .firstKey, .closeBrace => separate stack .closeBrace
  | .firstKey, t => startKey stack t
  | .key, .closeBrace => .error .trailingComma
  | .key, t => startKey stack t
  | .colon, .colon => .ok (.more .value stack)
  | .colon, _ => .error .expectedColon
  | .separator, t => separate stack t

/-- The fault of a document that ends here. -/
def endFault {α : Type} (isArray : α → Bool) (expect : Expect) (stack : List α) : Fault :=
  match expect with
  | .value | .element | .key => .endInValue
  | .firstElement => .endInList
  | .firstKey | .colon => .endInObject
  | .separator => if stack.head?.any isArray then .endInList else .endInObject

/-- Whether an open container is an array. -/
def Frame.isArray : Frame → Bool
  | .array _ => true
  | _ => false

/-- Reads tokens until the value is complete. -/
def readTokens (room : Nat) (expect : Expect) (stack : List Frame) :
    List Token → Except Fault (Value × List Token)
  | [] => .error (endFault Frame.isArray expect stack)
  | t :: rest =>
    match readToken room expect stack t with
    | .error f => .error f
    | .ok (.done v) => .ok (v, rest)
    | .ok (.more expect stack) => readTokens room expect stack rest

/-- Reads one value, with at most `room` containers open, and gives the tokens behind it. -/
def readValue (room : Nat) (ts : List Token) : Except Fault (Value × List Token) :=
  readTokens room .value [] ts

/-! ## Skipped values -/

/-- A container that is passed over. -/
inductive Bracket where
  | square
  | curly
deriving DecidableEq

/-- How skipping goes on after a token. -/
inductive Skipping where
  | more (expect : Expect) (stack : List Bracket)
  | done

/-- Goes on behind a value. -/
def passed : List Bracket → Skipping
  | [] => .done
  | stack => .more .separator stack

/-- Passes the token that starts a value. -/
def skipValue (stack : List Bracket) : Token → Except Fault Skipping
  | .null | .bool _ | .number _ | .text _ => .ok (passed stack)
  | .openBracket => .ok (.more .firstElement (.square :: stack))
  | .openBrace => .ok (.more .firstKey (.curly :: stack))
  | .brokenText _ skipped => .error skipped
  | .broken _ skipped => .error skipped
  | _ => .error .expectedValue

/-- Passes a key. -/
def skipKey (stack : List Bracket) : Token → Except Fault Skipping
  | .text _ => .ok (.more .colon stack)
  | .brokenText _ skipped => .error skipped
  | _ => .error .keyNotText

/-- Passes a comma or the end of the innermost container. -/
def skipSeparator (stack : List Bracket) (t : Token) : Except Fault Skipping :=
  match stack, t with
  | .square :: _, .comma => .ok (.more .element stack)
  | .square :: outer, .closeBracket => .ok (passed outer)
  | .square :: _, _ => .error .expectedCommaOrBracket
  | _, .comma => .ok (.more .key stack)
  | .curly :: outer, .closeBrace => .ok (passed outer)
  | _, _ => .error .expectedCommaOrBrace

/-- Passes one token. -/
def skipToken (expect : Expect) (stack : List Bracket) (t : Token) : Except Fault Skipping :=
  match expect, t with
  | .firstElement, .closeBracket => skipSeparator stack .closeBracket
  | .value, t | .firstElement, t | .element, t => skipValue stack t
  | .firstKey, .closeBrace => skipSeparator stack .closeBrace
  | .firstKey, t | .key, t => skipKey stack t
  | .colon, .colon => .ok (.more .value stack)
  | .colon, _ => .error .expectedColon
  | .separator, t => skipSeparator stack t

/-- The fault of a document that ends while a value is passed over. -/
def skipEndFault (expect : Expect) (stack : List Bracket) : Fault :=
  match expect with
  | .key => .endInObject
  | expect => endFault (· == .square) expect stack

/-- Passes tokens until the value is complete. -/
def skipTokens (expect : Expect) (stack : List Bracket) :
    List Token → Except Fault (List Token)
  | [] => .error (skipEndFault expect stack)
  | t :: rest =>
    match skipToken expect stack t with
    | .error f => .error f
    | .ok .done => .ok rest
    | .ok (.more expect stack) => skipTokens expect stack rest

/-- Passes over one value and gives the tokens behind it. -/
def skip (ts : List Token) : Except Fault (List Token) :=
  skipTokens .value [] ts

/-! ## Whole documents -/

/-- The characters of a text. -/
def glyphs (s : String) : List Glyph :=
  s.toList.map some

/-- Reads a whole document with a reader of its first part: nothing may follow. -/
def readAll {α : Type} (read : List Token → Except Fault (α × List Token)) (gs : List Glyph) :
    Except Fault α :=
  match read (tokens gs) with
  | .error f => .error f
  | .ok (a, []) => .ok a
  | .ok (_, _ :: _) => .error .trailingCharacters

/-- The value of a whole document. -/
def Value.ofText (s : String) : Except Fault Value :=
  readAll (readValue depthLimit) (glyphs s)

end BackendMonitor.Json
