/-
**The fewest digits that read back.**

A floating-point number stands for an interval: the numbers that are nearer to it than to its two
neighbours.  Its *shortest* decimal is the one with the fewest digits in that interval, and of two
with equally many the nearer one.

Main definitions:

* `PlainTx.Decimal.magnitude?` — a finite number as a quotient, its sign left out;
* `PlainTx.Decimal.Interval`, `PlainTx.Decimal.Interval.of` — the interval of a number;
* `PlainTx.Decimal.Interval.has` — whether a decimal lies in it;
* `PlainTx.Decimal.Interval.shortest` — the shortest decimal.
-/

import PlainTx.Decimal.Integer

set_option relaxedAutoImplicit false
set_option autoImplicit false

namespace PlainTx.Decimal

/-! ### The parts of a number -/

/-- A power of two. -/
def powTwo (n : Nat) : Nat := Nat.pow 2 n

/-- The exponent field of a number, which is 2047 for what is not finite. -/
def exponentField (x : Float) : Nat := (x.toBits >>> 52).toNat % 2048

/-- The fraction field of a number. -/
def fractionField (x : Float) : Nat := x.toBits.toNat % powTwo 52

/-- Whether the sign of a number is negative, as that of the negative zero is. -/
def isNegative (x : Float) : Bool := (x.toBits >>> 63).toNat == 1

/-- Whether a number is neither infinite nor undefined. -/
def isFinite (x : Float) : Bool := exponentField x != 2047

/-- The integral mantissa of a finite number. -/
def mantissa (x : Float) : Nat :=
  if exponentField x = 0 then fractionField x else powTwo 52 + fractionField x

/-- The power of two that the mantissa of a finite number is multiplied by. -/
def exponent (x : Float) : Int := max (exponentField x : Int) 1 - 1075

/-- The magnitude of a finite number as a quotient of two integers. -/
def magnitude? (x : Float) : Option (Nat × Nat) :=
  if isFinite x then
    some (mantissa x * powTwo (exponent x).toNat, powTwo (-exponent x).toNat)
  else none

/-! ### Intervals -/

/-- A positive number `value / 2 ^ shift`, with the two ends of its interval over the same power of
two. -/
structure Interval where
  low : Nat
  value : Nat
  high : Nat
  shift : Nat
  /-- Whether the ends belong to the interval. -/
  closed : Bool

namespace Interval

/-- The interval of a number that is finite and not zero.  The ends lie half way to the neighbours,
and below a power of two the neighbour is only half as far away as above; the ends belong to the
number whose mantissa is even. -/
def of (x : Float) : Interval :=
  let m := mantissa x
  let below := if fractionField x = 0 ∧ 1 < exponentField x then 1 else 2
  let up := powTwo (exponent x).toNat
  { low := (4 * m - below) * up
    value := 4 * m * up
    high := (4 * m + 2) * up
    shift := (-exponent x).toNat + 2
    closed := m % 2 == 0 }

/-- Whether the decimal `c * 10 ^ k` lies in the interval. -/
def has (i : Interval) (c : Nat) (k : Int) : Bool :=
  let d := c * powTen k.toNat * powTwo i.shift
  let unit := powTen (-k).toNat
  if i.closed then decide (i.low * unit ≤ d ∧ d ≤ i.high * unit)
  else decide (i.low * unit < d ∧ d < i.high * unit)

/-- More places than any number has zeros behind its point. -/
def places : Nat := 400

/-- The number of digits in front of the point; it is negative where zeros follow the point. -/
def point (i : Interval) : Int :=
  (Nat.toDigits 10 (i.value * powTen places / powTwo i.shift)).length - places

/-- The two neighbours of the value among the multiples of `10 ^ k`, the nearer one first, and the
even one if both are equally near. -/
def neighbours (i : Interval) (k : Int) : List Nat :=
  let num := i.value * powTen (-k).toNat
  let den := powTwo i.shift * powTen k.toNat
  let c := num / den
  let twice := 2 * (num % den)
  if twice < den ∨ (twice = den ∧ c % 2 = 0) then [c, c + 1] else [c + 1, c]

/-- The decimal of the given number of digits that is nearest to the value, if it lies in the
interval, or else the next one. -/
def ofLength? (i : Interval) (digits : Nat) : Option (Nat × Int) :=
  let k := i.point - digits
  ((i.neighbours k).find? (i.has · k)).map (·, k)

/-- The most digits that are needed to tell two numbers apart. -/
def mostDigits : Nat := 17

/-- The decimal with the fewest digits in the interval, if the search finds one. -/
def shortest? (i : Interval) : Option (Nat × Int) :=
  (List.range mostDigits).findSome? fun n => i.ofLength? (n + 1)

/-- The shortest decimal; where none is found, all digits of the value. -/
def shortest (i : Interval) : Nat × Int :=
  i.shortest?.getD (i.value * Nat.pow 5 i.shift, -(i.shift : Int))

end Interval

end PlainTx.Decimal
