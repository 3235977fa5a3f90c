/-
**Floating-point numbers in base ten.**

A floating-point number is written with the fewest digits that read back to it: with a point where
the leading digit stands between the fourth place behind the point and the sixteenth before it, and
with an exponent elsewhere.  It is read leniently: spaces at both ends, a sign, single underscores
between the digits, and names for what is infinite or undefined.

Main definitions:

* `PlainTx.Decimal.writeFloat` — the text of a number;
* `PlainTx.Decimal.readFloat?` — the number nearest to the one a text writes;
* `PlainTx.Decimal.halve` — the quotient and the remainder of a division by two.
-/

import PlainTx.Decimal.Integer
import PlainTx.Decimal.Shortest

set_option relaxedAutoImplicit false
set_option autoImplicit false

namespace PlainTx.Decimal

/-! ### Writing -/

/-- A number of zeros. -/
def zeros (n : Nat) : List Char := List.replicate n '0'

/-- An exponent with its sign and at least two digits. -/
def exponentText (e : Int) : List Char :=
  let ds := Nat.toDigits 10 e.natAbs
  (if e < 0 then '-' else '+') :: (zeros (2 - ds.length) ++ ds)

/-- Digits with `p` of them in front of the point, and at least one behind it. -/
def withPoint (ds : List Char) (p : Nat) : List Char :=
  let behind := ds.drop p
  ds.take p ++ zeros (p - ds.length) ++ '.' :: (if behind.isEmpty then ['0'] else behind)

/-- Digits in front of which the point stands, `p` places to the right. -/
def positional (ds : List Char) (p : Int) : List Char :=
  if p ≤ 0 then '0' :: '.' :: (zeros (-p).toNat ++ ds) else withPoint ds p.toNat

/-- Digits with the point behind the first of them, and an exponent. -/
def scientific (ds : List Char) (p : Int) : List Char :=
  let behind := ds.drop 1
  ds.take 1 ++ (if behind.isEmpty then [] else '.' :: behind) ++ 'e' :: exponentText (p - 1)

/-- Digits in front of which the point stands, `p` places to the right, in one of the two
notations. -/
def notate (ds : List Char) (p : Int) : List Char :=
  if -4 < p ∧ p ≤ 16 then positional ds p else scientific ds p

/-- Digits without the zeros at their end. -/
def stripEnd (ds : List Char) : List Char := (ds.reverse.dropWhile (· == '0')).reverse

/-- The decimal `c * 10 ^ k`. -/
def writeDecimal (c : Nat) (k : Int) : List Char :=
  let ds := Nat.toDigits 10 c
  notate (stripEnd ds) (ds.length + k)

/-- The magnitude of a number. -/
def writeMagnitude (x : Float) : List Char :=
  if !isFinite x then ['i', 'n', 'f']
  else if mantissa x = 0 then ['0', '.', '0']
  else
    let (c, k) := (Interval.of x).shortest
    writeDecimal c k

/-- The text of a number. -/
def writeFloat (x : Float) : String :=
  if x.isNaN then "nan"
  else String.ofList ((if isNegative x then ['-'] else []) ++ writeMagnitude x)

/-! ### Reading -/

/-- The power of ten beyond which a decimal is infinite, or zero where it is negative. -/
def farthest : Nat := 400

/-- The number nearest to `c * 10 ^ k`, where `c` has the given number of digits. -/
def nearest (digits c : Nat) (k : Int) : Float :=
  if c = 0 then 0
  else if (farthest : Int) < digits + k then 1 / 0
  else if digits + k < -(farthest : Int) then 0
  else if k < 0 then Float.ofScientific c true k.natAbs
  else Float.ofScientific c false k.natAbs

/-- The exponent behind its mark, which is zero where there is no mark. -/
def exponent? : List Char → Option Int
  | [] => some 0
  | _ :: rest => do
    let (negative, rest) := splitSign rest
    let e := ofDigits (← digits? rest)
    return if negative then -(e : Int) else e

/-- The digits of a part of a number that may be missing. -/
def part? (s : List Char) : Option (List Nat) := if s.isEmpty then some [] else digits? s

/-- The magnitude of a finite number: digits with a point among or around them, and an exponent. -/
def readMagnitude? (s : List Char) : Option Float := do
  let (number, tail) := s.span fun c => c != 'e' && c != 'E'
  let (whole, fraction) := number.span (· != '.')
  let whole ← part? whole
  let behind ← part? (fraction.drop 1)
  let k ← exponent? tail
  let ds := whole ++ behind
  if ds.isEmpty then none
  else some (nearest (ds.dropWhile (· == 0)).length (ofDigits ds) (k - behind.length))

/-- What the names for infinite and undefined numbers stand for. -/
def named? (s : String) : Option Float :=
  if s = "inf" ∨ s = "infinity" then some (1 / 0)
  else if s = "nan" then some (0 / 0)
  else none

/-- The number nearest to the one a text writes. -/
def readFloat? (s : List Char) : Option Float := do
  let (negative, rest) := splitSign (Text.trimBy Text.isSpace s)
  let x ← (named? (String.ofList (rest.map Char.toLower))) <|> readMagnitude? rest
  return if negative then -x else x

/-! ### Halves -/

/-- The whole quotient and the remainder of the division of a number, which is not negative, by two;
neither is defined for infinity. -/
def halve (x : Float) : Float × Float :=
  let rest := x - 2 * (x / 2).floor
  ((x - rest) / 2, rest)

end PlainTx.Decimal
