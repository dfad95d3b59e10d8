import JobScheduling.Clock

/-!
# Plain values in text

Reads words and truth values that are written without any decoration. A word may have a
plus sign in front. It is read digit by digit from the left, and the first digit that is
wrong, or that makes the number too large, decides the fault.
-/

set_option autoImplicit false

namespace JobScheduling

namespace Plain

/-- Why a text is no plain value. -/
inductive Fault
  | empty
  | invalidDigit
  | tooLarge
  | notBool
  deriving DecidableEq, Repr

/-- The text of a fault. The names of the truth values stand between graves. -/
def Fault.message : Fault → String
  | empty => "cannot parse integer from empty string"
  | invalidDigit => "invalid digit found in string"
  | tooLarge => "number too large to fit in target type"
  | notBool => "provided string was not \x60true\x60 or \x60false\x60"

/-- Reads further digits of a word. -/
def digits : Nat → List Char → Except Fault Nat
  | n, [] => .ok n
  | n, c :: rest =>
    if !c.isDigit then .error .invalidDigit
    else
      let next := 10 * n + (c.toNat - '0'.toNat)
      if maxWord < next then .error .tooLarge else digits next rest

/-- Reads a word. -/
def word : List Char → Except Fault Nat
  | [] => .error .empty
  | ['+'] => .error .invalidDigit
  | '+' :: rest => digits 0 rest
  | cs => digits 0 cs

/-- Reads a truth value. -/
def bool (cs : List Char) : Except Fault Bool :=
  if cs = "true".toList then .ok true
  else if cs = "false".toList then .ok false
  else .error .notBool

end Plain

end JobScheduling
