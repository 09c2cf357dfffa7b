/-!
# Whole numbers on command lines

Digits, possibly with a sign. The digits are taken one by one, so the first that is none or goes
beyond 64 bits decides what is wrong.
-/

namespace BackendMonitor.CommandLine

/-- What can be wrong with a number. -/
inductive WholeFault where
  | empty
  | noDigit
  | tooLarge
  | tooSmall
deriving DecidableEq, Repr

/-- The wording of a fault. -/
def WholeFault.message : WholeFault → String
  | .empty => "cannot parse integer from empty string"
  | .noDigit => "invalid digit found in string"
  | .tooLarge => "number too large to fit in target type"
  | .tooSmall => "number too small to fit in target type"

/-- The greatest number. The least one goes one further. -/
def wholeMax : Nat := 0x7FFFFFFFFFFFFFFF

/-- Takes the digits of a number whose size is at most `limit`. -/
def takeDigits (limit : Nat) (tooMuch : WholeFault) : Nat → List Char → Except WholeFault Nat
  | n, [] => .ok n
  | n, c :: cs =>
    if c.isDigit then
      let n := 10 * n + (c.toNat - 0x30)
      if limit < n then .error tooMuch else takeDigits limit tooMuch n cs
    else .error .noDigit

/-- Reads a number of 64 bits with a sign. -/
def whole (s : String) : Except WholeFault Int :=
  match s.toList with
  | [] => .error .empty
  | ['-'] | ['+'] => .error .noDigit
  | '-' :: cs => (takeDigits (wholeMax + 1) .tooSmall 0 cs).map fun n => -(n : Int)
  | '+' :: cs => (takeDigits wholeMax .tooLarge 0 cs).map fun n => (n : Int)
  | cs => (takeDigits wholeMax .tooLarge 0 cs).map fun n => (n : Int)

end BackendMonitor.CommandLine
