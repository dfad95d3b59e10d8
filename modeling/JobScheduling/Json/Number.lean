import JobScheduling.Clock
import JobScheduling.Json.Binary64

/-!
# Numbers of a document

A `Numeral` is a number as it is written. Its value is a `Number`: an integer where the
numeral has neither fraction nor exponent and its value fits 64 bits, and a floating
point number otherwise. A numeral whose floating point value is infinite has no value.

The floating point value is computed in three roundings and is not always the nearest
one. The digits are read into a word until the next digit would not fit, and further
digits only move the decimal point. The word is rounded to binary, and the result is
multiplied or divided by a rounded power of ten.

Minus zero is a floating point number.

A number is written as the characters of one numeral, `Number.numeral`.
-/

set_option autoImplicit false

namespace JobScheduling

/-- A number as it is written: digits, digits after a point, and a power of ten with its
sign. -/
structure Numeral where
  negative : Bool := false
  whole : List Nat
  fraction : Option (List Nat) := none
  exponent : Option (Bool × List Nat) := none
  deriving DecidableEq, Repr

/-- The value of a number. -/
inductive Number
  /-- An integer from `-2 ^ 63` to `2 ^ 64 - 1`. -/
  | integer (value : Int)
  | real (value : Binary64)
  deriving DecidableEq, Repr

namespace Numeral

/-- The value of decimal digits. -/
def ofDigits (digits : List Nat) : Nat := digits.foldl (fun n d => 10 * n + d) 0

/-- Digits read into a word: its value, and the digits that did not fit. -/
def intoWord : Nat → List Nat → Nat × List Nat
  | n, [] => (n, [])
  | n, d :: rest => if maxWord < 10 * n + d then (n, d :: rest) else intoWord (10 * n + d) rest

/-- The rounded power of ten. Powers above the 308th are not used. -/
def tenTo (k : Nat) : Binary64 :=
  (Binary64.nearest false (Nat.pow 10 k) 1).getD (Binary64.zero false)

/-- `x * 10 ^ exponent`, by steps of at most 308 powers of ten downwards. The fuel
suffices, since two steps down make any word zero. -/
def scale : Nat → Binary64 → Int → Option Binary64
  | 0, x, _ => some (Binary64.zero x.negative)
  | fuel + 1, x, exponent =>
    -- One rounding for every step: the order of the cases decides the last bit.
    if 0 ≤ exponent ∧ exponent ≤ 308 then x.mul (tenTo exponent.toNat)
    else if -308 ≤ exponent ∧ exponent < 0 then x.div (tenTo (-exponent).toNat)
    else if x.significand = 0 then some x
    else if 0 ≤ exponent then none
    else (x.div (tenTo 308)).bind fun y => scale fuel y (exponent + 308)

/-- The largest exponent that is told apart from larger ones. -/
def maxExponent : Nat := Nat.pow 2 31 - 1

/-- The word of a numeral's digits and the power of ten it stands at. Digits before the
point that do not fit raise the power, and digits after it that do fit lower it. -/
def parts (n : Numeral) : Nat × Int :=
  let fraction := n.fraction.getD []
  let (word, beyond) := intoWord 0 n.whole
  let (word, left) := intoWord word fraction
  (word, (beyond.length : Int) + left.length - fraction.length)

/-- The floating point value, or `none` when it is infinite. -/
def real? (n : Numeral) : Option Binary64 :=
  let (word, power) := n.parts
  let signed (x : Binary64) : Binary64 := { x with negative := n.negative }
  let scaled (exponent : Int) : Option Binary64 :=
    ((Binary64.nearest false word 1).bind fun x => scale 4 x exponent).map signed
  match n.exponent with
  | none => scaled power
  | some (down, digits) =>
    let size := ofDigits digits
    if maxExponent < size then
      if word ≠ 0 ∧ !down then none else some (Binary64.zero n.negative)
    else scaled (if down then power - size else power + size)

/-- The integer a numeral stands for, if it has neither fraction nor exponent and the
value fits 64 bits. Minus zero is no integer. -/
def integer? (n : Numeral) : Option Int :=
  match n.fraction, n.exponent with
  | none, none =>
    let size := ofDigits n.whole
    if n.negative then
      if 0 < size ∧ size ≤ Nat.pow 2 63 then some (-(size : Int)) else none
    else if size ≤ maxWord then some size else none
  | _, _ => none

/-- The value of a numeral, or `none` when it is infinite. -/
def value? (n : Numeral) : Option Number :=
  match n.integer? with
  | some i => some (.integer i)
  | none => n.real?.map .real

/-- The digits of a natural number, without zeros in front. -/
def digitsOf (n : Nat) : List Nat := (Nat.toDigits 10 n).map fun c => c.toNat - '0'.toNat

/-- Digits as characters. -/
def spell (digits : List Nat) : List Char := digits.map Nat.digitChar

/-- A fraction with its point. -/
def spellFraction : Option (List Nat) → List Char
  | none => []
  | some digits => '.' :: spell digits

/-- An exponent with its sign. -/
def spellExponent : Option (Bool × List Nat) → List Char
  | none => []
  | some (down, digits) => 'e' :: (if down then '-' else '+') :: spell digits

/-- The characters of a numeral. -/
def chars (n : Numeral) : List Char :=
  (if n.negative then ['-'] else []) ++
    (spell n.whole ++ (spellFraction n.fraction ++ spellExponent n.exponent))

end Numeral

namespace Number

/-- How floating point numbers are written: positional where the leading digit stands
between these powers of ten, and with an exponent elsewhere. -/
structure RealFormat where
  least : Int
  greatest : Int

/-- Numbers from `1e-5` up to `1e16` are positional. -/
def realFormat : RealFormat := ⟨-5, 15⟩

/-- The numeral of a finite number in its shortest form. A positional number keeps one digit
after the point. -/
def realNumeral (x : Binary64) : Numeral :=
  let negative := x.negative
  let d := x.shortest
  let digits := Numeral.digitsOf d.digits
  let lead : Int := digits.length - 1 + d.exponent
  if d.digits = 0 then { negative, whole := [0], fraction := some [0] }
  else if lead < realFormat.least ∨ realFormat.greatest < lead then
    let fraction := if digits.length = 1 then none else some (digits.drop 1)
    { negative, whole := digits.take 1, fraction,
      exponent := some (lead < 0, Numeral.digitsOf lead.natAbs) }
  else if 0 ≤ d.exponent then
    { negative, whole := digits ++ List.replicate d.exponent.toNat 0, fraction := some [0] }
  else if 0 ≤ lead then
    { negative, whole := digits.take (lead.toNat + 1),
      fraction := some (digits.drop (lead.toNat + 1)) }
  else
    { negative, whole := [0],
      fraction := some (List.replicate (-lead - 1).toNat 0 ++ digits) }

/-- The numeral that a number is written as. -/
def numeral : Number → Numeral
  | .integer i => { negative := i < 0, whole := Numeral.digitsOf i.natAbs }
  | .real x => realNumeral x

/-- The text of a number. -/
def write (n : Number) : String := String.ofList n.numeral.chars

end Number

end JobScheduling
