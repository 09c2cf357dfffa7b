import BackendMonitor.Json.Reader

/-!
# Typed documents

A decoder reads a value of one type, either from the tokens of a document (`read`) or from a value
that was read before (`ofValue`). Both know the same types and word their faults alike; they differ
where only a document has syntax, and where only a value knows its length.

* `Decoder.text`, `Decoder.natural`, … read single values;
* `Record.decoder` reads a record, from an object by the names of its fields or from an array by
  their order;
* `Decoder.oneOf` reads one of several names;
* `Decoder.ofText` reads a whole document.
-/

namespace BackendMonitor.Json

/-- How a value of type `α` is read. -/
structure Decoder (α : Type) where
  /-- Reads from tokens, with a bound on the number of open containers. -/
  read : Nat → List Token → Except Fault (α × List Token)
  /-- Reads from a value. -/
  ofValue : Value → Except Fault α

/-! ## What was found -/

/-- A number as a fault describes it. -/
def Found.ofNumber : Number → Found
  | .int i => .integer i
  | .float x => .float x

/-- A value as a fault describes it. -/
def Found.ofValue : Value → Found
  | .null => .null
  | .bool b => .boolean b
  | .number n => .ofNumber n
  | .text s => .text s
  | .array _ => .list
  | .object _ => .object

/-- The fault of a token that starts no value of the expected type. A broken token keeps its own
fault. -/
def Token.mismatch (expected : String) : Token → Fault
  | .null => .wrongType .null expected
  | .bool b => .wrongType (.boolean b) expected
  | .number l =>
    match l.value with
    | .ok n => .wrongType (.ofNumber n) expected
    | .error f => f
  | .text (.ok s) => .wrongType (.text s) expected
  | .text (.error f) => f
  | .brokenText kept _ => kept
  | .broken kept _ => kept
  | .openBracket => .wrongType .list expected
  | .openBrace => .wrongType .object expected
  | _ => .expectedValue

/-- The fault of a value that is not of the expected type. -/
def Value.mismatch (expected : String) (v : Value) : Fault :=
  .wrongType (.ofValue v) expected

namespace Decoder

/-! ## Single values -/

/-- A decoder that looks at one token, or at one value. -/
def ofToken {α : Type} (token : Token → Except Fault α) (value : Value → Except Fault α) :
    Decoder α where
  read _ ts :=
    match ts with
    | [] => .error .endInValue
    | t :: rest => (token t).map (·, rest)
  ofValue := value

/-- A text. -/
def text : Decoder String :=
  ofToken
    (fun t => match t with
      | .text content => content
      | t => .error (t.mismatch "a string"))
    (fun v => match v with
      | .text s => .ok s
      | v => .error (v.mismatch "a string"))

/-- A truth value. -/
def bool : Decoder Bool :=
  ofToken
    (fun t => match t with
      | .bool b => .ok b
      | t => .error (t.mismatch "a boolean"))
    (fun v => match v with
      | .bool b => .ok b
      | v => .error (v.mismatch "a boolean"))

/-- A number of any kind. -/
def number {α : Type} (expected : String) (take : Number → Except Fault α) : Decoder α :=
  ofToken
    (fun t => match t with
      | .number l => l.value.bind take
      | t => .error (t.mismatch expected))
    (fun v => match v with
      | .number n => take n
      | v => .error (v.mismatch expected))

/-- A whole number below `bound`. -/
def takeNatural (expected : String) (bound : Nat) : Number → Except Fault Nat
  | .int (.ofNat n) =>
    if n < bound then .ok n else .error (.wrongValue (.integer n) expected)
  | .int i => .error (.wrongValue (.integer i) expected)
  | .float x => .error (.wrongType (.float x) expected)

/-- A whole number of 64 bits. -/
def word64 : Decoder UInt64 :=
  number "u64" fun n => (takeNatural "u64" UInt64.size n).map Nat.toUInt64

/-- A whole number of 32 bits. -/
def word32 : Decoder UInt32 :=
  number "u32" fun n => (takeNatural "u32" UInt32.size n).map Nat.toUInt32

/-- A floating point number; whole numbers become one. -/
def float : Decoder Float :=
  number "f64" fun n => .ok n.toFloat

/-- A value of any type. -/
def any : Decoder Value where
  read := readValue
  ofValue := .ok

/-- An object of any members. -/
def object : Decoder Value where
  read room ts :=
    match ts with
    | [] => .error .endInValue
    | .openBrace :: _ => readValue room ts
    | t :: _ => .error (t.mismatch "a map")
  ofValue v := if v.isObject then .ok v else .error (v.mismatch "a map")

/-- A value that may be `null`. -/
def optional {α : Type} (d : Decoder α) : Decoder (Option α) where
  read room ts :=
    match ts with
    | .null :: rest => .ok (none, rest)
    | ts => (d.read room ts).map fun (a, rest) => (some a, rest)
  ofValue v :=
    match v with
    | .null => .ok none
    | v => (d.ofValue v).map some

/-! ## Names -/

/-- Looks a name up among those that are known. -/
def lookUp {α : Type} (known : List (String × α)) (name : String) : Except Fault α :=
  match known.find? (·.1 == name) with
  | some (_, a) => .ok a
  | none => .error (.unknownVariant name (known.map (·.1)))

/-- One of several names, or an object that has the name as its only key and nothing under it. -/
def oneOf {α : Type} (known : List (String × α)) : Decoder α where
  read room ts :=
    match ts with
    | [] => .error .endInValue
    | .text content :: rest => (content.bind (lookUp known)).map (·, rest)
    | .brokenText kept _ :: _ => .error kept
    | .openBrace :: rest =>
      if room = 0 then .error .tooDeep
      else
        match rest with
        | [] => .error .endInObject
        | .text content :: rest =>
          match content.bind (lookUp known), rest with
          | .error f, _ => .error f
          | .ok _, [] => .error .endInObject
          | .ok a, .colon :: .null :: .closeBrace :: rest => .ok (a, rest)
          | .ok _, .colon :: .null :: [] => .error .endInObject
          | .ok _, .colon :: .null :: _ => .error .expectedValue
          | .ok _, .colon :: [] => .error .endInValue
          | .ok _, .colon :: t :: _ => .error (t.mismatch "unit")
          | .ok _, _ => .error .expectedColon
        | .brokenText kept _ :: _ => .error kept
        | _ => .error .keyNotText
    | _ => .error .expectedValue
  ofValue v :=
    match v with
    | .text s => lookUp known s
    | .object [(name, held)] =>
      match lookUp known name, held with
      | .error f, _ => .error f
      | .ok a, .null => .ok a
      | .ok _, v => .error (v.mismatch "unit")
    | .object _ => .error (.wrongValue .object "map with a single key")
    | v => .error (v.mismatch "string or map")

/-! ## Documents -/

/-- Reads a whole document. -/
def ofGlyphs {α : Type} (d : Decoder α) (gs : List Glyph) : Except Fault α :=
  readAll (d.read depthLimit) gs

/-- Reads a whole document. -/
def ofText {α : Type} (d : Decoder α) (s : String) : Except Fault α :=
  d.ofGlyphs (glyphs s)

/-- Checks what was read. -/
def refine {α β : Type} (d : Decoder α) (check : α → Except Fault β) : Decoder β where
  read room ts :=
    match d.read room ts with
    | .error f => .error f
    | .ok (a, rest) => (check a).map (·, rest)
  ofValue v := (d.ofValue v).bind check

end Decoder

/-! ## Records -/

/-- A field of a record of type `α`: its name, and how its value is put into the record. -/
structure Field (α : Type) where
  name : String
  required : Bool
  read : Nat → List Token → α → Except Fault (α × List Token)
  ofValue : Value → α → Except Fault α

/-- A field with a decoder for its values. -/
def Field.of {α β : Type} (name : String) (required : Bool) (d : Decoder β) (set : β → α → α) :
    Field α where
  name := name
  required := required
  read room ts a := (d.read room ts).map fun (b, rest) => (set b a, rest)
  ofValue v a := (d.ofValue v).map fun b => set b a

/-- A record: its name, its fields in order, and the values of the fields that are not given. A
required field has to be given, so its value in `blank` is never seen. -/
structure Record (α : Type) where
  name : String
  fields : List (Field α)
  blank : α

namespace Record

variable {α : Type}

/-- The field with a name. -/
def field? (r : Record α) (name : String) : Option (Field α) :=
  r.fields.find? (·.name == name)

/-- The first required field that is not given. -/
def missing? (r : Record α) (given : List String) : Option String :=
  (r.fields.find? fun f => f.required && !given.contains f.name).map (·.name)

/-- The record, once no further field is given. -/
def complete (r : Record α) (given : List String) (a : α) : Except Fault α :=
  match r.missing? given with
  | some name => .error (.missingField name)
  | none => .ok a

/-- The name of the record as a fault words it. -/
def title (r : Record α) : String :=
  s!"struct {r.name}"

/-- The fault of an array that ends before the field at `index`. -/
def tooShort (r : Record α) (index : Nat) : Fault :=
  let unit := if r.fields.length = 1 then "element" else "elements"
  .wrongLength index s!"{r.title} with {r.fields.length} {unit}"

/-! ### From a document -/

/-- The next key of an object: its name and the tokens behind it, or the end of the object. -/
def nextKey (first : Bool) : List Token → Except Fault (Option String × List Token)
  | [] => .error .endInObject
  | .closeBrace :: rest => .ok (none, rest)
  | t :: rest =>
    if first then key t rest
    else
      match t, rest with
      | .comma, [] => .error .endInValue
      | .comma, .closeBrace :: _ => .error .trailingComma
      | .comma, t :: rest => key t rest
      | _, _ => .error .expectedCommaOrBrace
where
  /-- The name of a key. -/
  key (t : Token) (rest : List Token) : Except Fault (Option String × List Token) :=
    match t with
    | .text content => content.map fun name => (some name, rest)
    | .brokenText kept _ => .error kept
    | _ => .error .keyNotText

/-- The tokens behind a colon. -/
def afterColon : List Token → Except Fault (List Token)
  | [] => .error .endInObject
  | .colon :: rest => .ok rest
  | _ => .error .expectedColon

/-- Reads the value of a key that is or is not a field. -/
def member (r : Record α) (room : Nat) (name : String) (a : α) (ts : List Token) :
    Except Fault (α × List Token) :=
  match afterColon ts with
  | .error f => .error f
  | .ok rest =>
    match r.field? name with
    | some field => field.read room rest a
    | none => (skip rest).map (a, ·)

/-- Reads members up to the end of the object, `limit` of them at most. -/
def members (r : Record α) (room : Nat) :
    Nat → Bool → List String → α → List Token → Except Fault (α × List Token)
  | 0, _, _, _, _ => .error .endInObject
  | limit + 1, first, given, a, ts =>
    match nextKey first ts with
    | .error f => .error f
    | .ok (none, rest) => (r.complete given a).map (·, rest)
    | .ok (some name, rest) =>
      if (r.field? name).isSome && given.contains name then .error (.duplicateField name)
      else
        match r.member room name a rest with
        | .error f => .error f
        | .ok (a, rest) => members r room limit false (name :: given) a rest

/-- The tokens of the next element of an array, or `none` at its end. -/
def nextElement (first : Bool) : List Token → Except Fault (Option (List Token))
  | [] => .error .endInList
  | .closeBracket :: _ => .ok none
  | t :: rest =>
    if first then .ok (some (t :: rest))
    else
      match t, rest with
      | .comma, [] => .error .endInValue
      | .comma, .closeBracket :: _ => .error .trailingComma
      | .comma, rest => .ok (some rest)
      | _, _ => .error .expectedCommaOrBracket

/-- The tokens behind an array whose elements are all read. -/
def endArray : List Token → Except Fault (List Token)
  | [] => .error .endInList
  | .closeBracket :: rest => .ok rest
  | .comma :: .closeBracket :: _ => .error .trailingComma
  | _ => .error .trailingCharacters

/-- Reads the fields in order; the first of them stands at `index`. -/
def elements (r : Record α) (room : Nat) :
    List (Field α) → Nat → Bool → α → List Token → Except Fault (α × List Token)
  | [], _, _, a, ts => (endArray ts).map (a, ·)
  | field :: fields, index, first, a, ts =>
    match nextElement first ts with
    | .error f => .error f
    | .ok none =>
      if field.required then .error (r.tooShort index)
      else elements r room fields (index + 1) first a ts
    | .ok (some ts) =>
      match field.read room ts a with
      | .error f => .error f
      | .ok (a, rest) => elements r room fields (index + 1) false a rest

/-- Reads a record from an object or an array. -/
def read (r : Record α) (room : Nat) : List Token → Except Fault (α × List Token)
  | [] => .error .endInValue
  | .openBrace :: rest =>
    if room = 0 then .error .tooDeep
    else r.members (room - 1) (rest.length + 1) true [] r.blank rest
  | .openBracket :: rest =>
    if room = 0 then .error .tooDeep
    else r.elements (room - 1) r.fields 0 true r.blank rest
  | t :: _ => .error (t.mismatch r.title)

/-! ### From a value -/

/-- Takes the members of an object that are fields. -/
def ofMembers (r : Record α) (given : List String) (a : α) :
    List (String × Value) → Except Fault α
  | [] => r.complete given a
  | (name, v) :: rest =>
    match r.field? name with
    | none => ofMembers r given a rest
    | some field =>
      match field.ofValue v a with
      | .error f => .error f
      | .ok a => ofMembers r (name :: given) a rest

/-- Takes the elements of an array of length `length` as the fields in order; the first of them
stands at `index`. -/
def ofElements (r : Record α) (length : Nat) :
    List (Field α) → Nat → α → List Value → Except Fault α
  | [], _, a, [] => .ok a
  | [], _, _, _ :: _ => .error (.wrongLength length "fewer elements in array")
  | field :: fields, index, a, [] =>
    if field.required then .error (r.tooShort index)
    else ofElements r length fields (index + 1) a []
  | field :: fields, index, a, v :: vs =>
    match field.ofValue v a with
    | .error f => .error f
    | .ok a => ofElements r length fields (index + 1) a vs

/-- Reads a record from an object or an array. -/
def ofValue (r : Record α) : Value → Except Fault α
  | .object members => r.ofMembers [] r.blank members
  | .array elements => r.ofElements elements.length r.fields 0 r.blank elements
  | v => .error (v.mismatch r.title)

/-- The decoder of a record. -/
def decoder (r : Record α) : Decoder α :=
  ⟨r.read, r.ofValue⟩

end Record

end BackendMonitor.Json
