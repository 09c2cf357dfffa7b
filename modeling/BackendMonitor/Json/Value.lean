/-!
# JSON values

A value is what a document says, apart from its spelling. Whole numbers and floating point numbers
are two kinds: `1` and `1.0` are different values, while `0.0` and `-0.0` are the same one.

* `Value.same` decides when two values are the same;
* `Value.object` keeps its members in the order in which they are given; `ofMembers` makes the
  object that a document means, with its keys in order and the last of several equal keys;
* `Value.get?` looks a member up.
-/

namespace BackendMonitor.Json

/-- A number: a whole number of at most 64 bits, or a floating point number. -/
inductive Number where
  | int (value : Int)
  | float (value : Float)
deriving Repr, Inhabited

/-- Equality of numbers. A whole number never equals a floating point number. -/
def Number.same : Number → Number → Bool
  | .int a, .int b => a == b
  | .float a, .float b => a == b
  | _, _ => false

/-- The floating point number nearest to a number. -/
def Number.toFloat : Number → Float
  | .int (.ofNat n) => n.toUInt64.toFloat
  | .int (.negSucc n) => -(n + 1).toUInt64.toFloat
  | .float x => x

/-- A JSON value. -/
inductive Value where
  | null
  | bool (value : Bool)
  | number (value : Number)
  | text (value : String)
  | array (elements : List Value)
  | object (members : List (String × Value))
deriving Repr, Inhabited

namespace Value

/-- A whole number as a value. -/
def nat (n : Nat) : Value := .number (.int n)

/-- A floating point number as a value. -/
def float (x : Float) : Value := .number (.float x)

/-- A text, or `null` for none. -/
def textOrNull : Option String → Value
  | some s => .text s
  | none => .null

/-! ## Sameness -/

mutual

/-- Whether two values are the same, numbers being compared by `Number.same`. -/
def same : Value → Value → Bool
  | .null, .null => true
  | .bool a, .bool b => a == b
  | .number a, .number b => a.same b
  | .text a, .text b => a == b
  | .array xs, .array ys => sameElements xs ys
  | .object xs, .object ys => sameMembers xs ys
  | _, _ => false

/-- Whether two lists of elements are the same, one by one. -/
def sameElements : List Value → List Value → Bool
  | [], [] => true
  | x :: xs, y :: ys => x.same y && sameElements xs ys
  | _, _ => false

/-- Whether two lists of members are the same, one by one. -/
def sameMembers : List (String × Value) → List (String × Value) → Bool
  | [], [] => true
  | (k, x) :: xs, (l, y) :: ys => k == l && x.same y && sameMembers xs ys
  | _, _ => false

end

instance : BEq Value := ⟨same⟩

/-! ## Objects -/

/-- Puts a member where its key belongs in the order of keys, in place of one with that key. -/
def insertMember (key : String) (value : Value) :
    List (String × Value) → List (String × Value)
  | [] => [(key, value)]
  | (k, v) :: rest =>
    if key < k then (key, value) :: (k, v) :: rest
    else if key = k then (key, value) :: rest
    else (k, v) :: insertMember key value rest

/-- The object with the given members: keys in order, and of several equal keys the last. -/
def ofMembers (members : List (String × Value)) : Value :=
  .object (members.foldl (fun acc m => insertMember m.1 m.2 acc) [])

/-- The member with a key. -/
def get? (key : String) : Value → Option Value
  | .object members => (members.find? (·.1 == key)).map (·.2)
  | _ => none

/-- The text of a value that is one. -/
def text? : Value → Option String
  | .text s => some s
  | _ => none

/-- Whether a value is an object. -/
def isObject : Value → Bool
  | .object _ => true
  | _ => false

end Value

end BackendMonitor.Json
