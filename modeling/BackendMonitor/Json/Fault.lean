import BackendMonitor.Decimal.Layout
import BackendMonitor.Text.Quoted

/-!
# What can be wrong with a document

A fault is the first thing that keeps a document from being read: a slip of syntax, a value of the
wrong type or out of its range, or a record with fields missing or given twice. `Fault.message`
is its wording. Positions are no part of it.
-/

namespace BackendMonitor.Json

/-- A value that stands where another is expected, as far as a fault describes it. -/
inductive Found where
  | null
  | boolean (value : Bool)
  | integer (value : Int)
  | float (value : Float)
  | text (value : String)
  | list
  | object
deriving Repr

/-- The wording of a value that was found. -/
def Found.describe : Found → String
  | .null => "null"
  | .boolean b => s!"boolean `{b}`"
  | .integer i => s!"integer `{i}`"
  | .float x => s!"floating point `{String.ofList ((Decimal.write? x).getD [])}`"
  | .text s => s!"string {Text.quoted s}"
  | .list => "sequence"
  | .object => "map"

/-- The first thing that is wrong with a document. -/
inductive Fault where
  | endInValue
  | endInText
  | endInList
  | endInObject
  | expectedValue
  | expectedWord
  | expectedColon
  | expectedCommaOrBracket
  | expectedCommaOrBrace
  | keyNotText
  | trailingComma
  | trailingCharacters
  | invalidNumber
  | numberOutOfRange
  | invalidEscape
  | unfinishedSurrogatePair
  | loneSurrogate
  | controlCharacter
  | illFormedBytes
  | tooDeep
  | wrongType (found : Found) (expected : String)
  | wrongValue (found : Found) (expected : String)
  | wrongLength (length : Nat) (expected : String)
  | missingField (name : String)
  | duplicateField (name : String)
  | unknownVariant (name : String) (known : List String)
  /-- A rule of the document's own is broken. -/
  | rejected (reason : String)
deriving Repr

/-- The list of the variants that are known. -/
def describeVariants (known : List String) : String :=
  match known with
  | [] => "there are no variants"
  | [a] => s!"expected `{a}`"
  | [a, b] => s!"expected `{a}` or `{b}`"
  | _ => "expected one of " ++ ", ".intercalate (known.map fun n => s!"`{n}`")

/-- The wording of a fault. -/
def Fault.message : Fault → String
  | .endInValue => "EOF while parsing a value"
  | .endInText => "EOF while parsing a string"
  | .endInList => "EOF while parsing a list"
  | .endInObject => "EOF while parsing an object"
  | .expectedValue => "expected value"
  | .expectedWord => "expected ident"
  | .expectedColon => "expected `:`"
  | .expectedCommaOrBracket => "expected `,` or `]`"
  | .expectedCommaOrBrace => "expected `,` or `\x7d`"
  | .keyNotText => "key must be a string"
  | .trailingComma => "trailing comma"
  | .trailingCharacters => "trailing characters"
  | .invalidNumber => "invalid number"
  | .numberOutOfRange => "number out of range"
  | .invalidEscape => "invalid escape"
  | .unfinishedSurrogatePair => "unexpected end of hex escape"
  | .loneSurrogate => "lone leading surrogate in hex escape"
  | .controlCharacter => "control character (\\u0000-\\u001F) found while parsing a string"
  | .illFormedBytes => "invalid unicode code point"
  | .tooDeep => "recursion limit exceeded"
  | .wrongType found expected => s!"invalid type: {found.describe}, expected {expected}"
  | .wrongValue found expected => s!"invalid value: {found.describe}, expected {expected}"
  | .wrongLength length expected => s!"invalid length {length}, expected {expected}"
  | .missingField name => s!"missing field `{name}`"
  | .duplicateField name => s!"duplicate field `{name}`"
  | .unknownVariant name known => s!"unknown variant `{name}`, {describeVariants known}"
  | .rejected reason => reason

end BackendMonitor.Json
