/-!
# Binary floating point, exactly

A finite binary64 number is kept as a sign, a significand and a power of two, and all
arithmetic on it is arithmetic of natural numbers. `Binary64.nearest` is the one place
where a quotient is rounded: to the nearest representable number, a half to the even
significand. Products and quotients of floating point numbers are rounded once, by it.

`Binary64.shortest` goes the other way. It gives the fewest decimal digits that read
back as the same number, and among those the decimal nearest to it.
-/

set_option autoImplicit false

namespace JobScheduling

/-- The finite number `± significand * 2 ^ power`. In a rounded number the significand
is below `2 ^ 53`, the power is at least `-1074`, and the significand is at least
`2 ^ 52` unless the power is `-1074`. -/
structure Binary64 where
  negative : Bool
  significand : Nat
  power : Int
  deriving DecidableEq, Repr

namespace Binary64

/-- The smallest power of two of a significand. -/
def minPower : Int := -1074

/-- The largest power of two of a significand. -/
def maxPower : Int := 971

/-- Zero, with a sign. -/
def zero (negative : Bool) : Binary64 := ⟨negative, 0, minPower⟩

/-- The fraction `num / (den * 2 ^ power)` as a pair of natural numbers. -/
def scaled (num den : Nat) (power : Int) : Nat × Nat :=
  (num * Nat.pow 2 (-power).toNat, den * Nat.pow 2 power.toNat)

/-- A quotient rounded to the nearest natural number, a half to the even one. -/
def roundDiv (num den : Nat) : Nat :=
  let low := num / den
  let twice := 2 * (num % den)
  if twice < den then low
  else if den < twice then low + 1
  else if low % 2 = 0 then low else low + 1

/-- The power of two at which the integer part of `num / den` has 53 bits, or the
smallest power when that is larger. -/
def powerFor (num den : Nat) : Int :=
  let guess : Int := num.log2 - den.log2 - 52
  let (n, d) := scaled num den guess
  max minPower (if Nat.pow 2 52 ≤ n / d then guess else guess - 1)

/-- The number nearest to `num / den`, or `none` when it is too large. -/
def nearest (negative : Bool) (num den : Nat) : Option Binary64 :=
  if num = 0 then some (zero negative)
  else
    let power := powerFor num den
    let (n, d) := scaled num den power
    let m := roundDiv n d
    let (m, power) := if m = Nat.pow 2 53 then (Nat.pow 2 52, power + 1) else (m, power)
    if maxPower < power then none else some ⟨negative, m, power⟩

/-- The value without its sign, as a fraction. -/
def fraction (x : Binary64) : Nat × Nat :=
  (x.significand * Nat.pow 2 x.power.toNat, Nat.pow 2 (-x.power).toNat)

/-- The rounded product, or `none` when it is too large. -/
def mul (x y : Binary64) : Option Binary64 :=
  let (a, b) := x.fraction
  let (c, d) := y.fraction
  nearest (x.negative != y.negative) (a * c) (b * d)

/-- The rounded quotient by a number other than zero, or `none` when it is too large. -/
def div (x y : Binary64) : Option Binary64 :=
  let (a, b) := x.fraction
  let (c, d) := y.fraction
  nearest (x.negative != y.negative) (a * d) (b * c)

/-- A decimal `digits * 10 ^ exponent`. -/
structure Decimal where
  digits : Nat
  exponent : Int
  deriving DecidableEq, Repr

/-- The decimal without zeros at the end of its digits. The fuel bounds their number. -/
def Decimal.strip : Nat → Decimal → Decimal
  | 0, d => d
  | fuel + 1, d =>
    if d.digits ≠ 0 ∧ d.digits % 10 = 0 then strip fuel ⟨d.digits / 10, d.exponent + 1⟩ else d

/-- The power of ten of the leading digit of `num / den`. -/
def leading (num den : Nat) : Int :=
  let guess : Int := (Nat.toDigits 10 num).length - (Nat.toDigits 10 den).length
  if num * Nat.pow 10 (-guess).toNat < den * Nat.pow 10 guess.toNat then guess - 1 else guess

/-- The fractions that round to a number lie between two bounds, which are among them
exactly when the significand is even. The lower bound is nearer where the power of two
changes. -/
structure Interval where
  low : Nat × Nat
  high : Nat × Nat
  closed : Bool

/-- The interval of the fractions that round to `x`, which is not zero. -/
def interval (x : Binary64) : Interval :=
  let halves := 4 * x.significand
  let low := if x.significand = Nat.pow 2 52 ∧ minPower < x.power then halves - 1 else halves - 2
  let at2 (m : Nat) : Nat × Nat :=
    (m * Nat.pow 2 (x.power - 2).toNat, Nat.pow 2 (2 - x.power).toNat)
  ⟨at2 low, at2 (halves + 2), x.significand % 2 == 0⟩

/-- Whether the decimal lies in the interval. -/
def Interval.holds (i : Interval) (d : Decimal) : Bool :=
  let num := d.digits * Nat.pow 10 d.exponent.toNat
  let den := Nat.pow 10 (-d.exponent).toNat
  let below := i.low.1 * den
  let above := i.high.1 * den
  if i.closed then below ≤ num * i.low.2 && num * i.high.2 ≤ above
  else below < num * i.low.2 && num * i.high.2 < above

/-- The decimal with digits down to `exponent` that reads back, if one of the two
neighbours of the value does. Of two the nearer is taken, and of two equally near ones
the one with even digits. -/
def onGrid (i : Interval) (num den : Nat) (exponent : Int) : Option Decimal :=
  let n := num * Nat.pow 10 (-exponent).toNat
  let d := den * Nat.pow 10 exponent.toNat
  let low := n / d
  let near := roundDiv n d
  let far := if near = low then low + 1 else low
  if i.holds ⟨near, exponent⟩ then some ⟨near, exponent⟩
  else if i.holds ⟨far, exponent⟩ then some ⟨far, exponent⟩
  else none

/-- The first grid with a hit, from `exponent` downwards. -/
def firstHit (i : Interval) (num den : Nat) : Nat → Int → Decimal
  | 0, exponent =>
    ⟨roundDiv (num * Nat.pow 10 (-exponent).toNat) (den * Nat.pow 10 exponent.toNat), exponent⟩
  | fuel + 1, exponent =>
    match onGrid i num den exponent with
    | some d => d
    | none => firstHit i num den fuel (exponent - 1)

/-- The shortest decimal that reads back as the value without its sign. Seventeen digits
always do. -/
def shortest (x : Binary64) : Decimal :=
  if x.significand = 0 then ⟨0, 0⟩
  else
    let (num, den) := x.fraction
    (firstHit x.interval num den 16 (leading num den)).strip 20

end Binary64

end JobScheduling
