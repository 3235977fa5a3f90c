/-
**Integers in base ten.**

An integer is read leniently: spaces at both ends, a sign, single underscores between the digits,
and the decimal digits of all scripts.  Reading and writing are both limited to a fixed number of
digits, because the work they take grows faster than the number of digits.

Main definitions:

* `PlainTx.Decimal.digitLimit` — the most digits that are read or written;
* `PlainTx.Decimal.readInt?` — the integer a text writes;
* `PlainTx.Decimal.writable` — whether an integer is short enough to be written.

Main results:

* `PlainTx.Decimal.writable_natCast` — the writable numbers;
* `PlainTx.Decimal.writable_of_natAbs_le` — what lies nearer to zero than a writable integer is
  writable.
-/

import PlainTx.Text.Blank
import PlainTx.Text.DecimalDigit
import PlainTx.Text.Grouped

set_option relaxedAutoImplicit false
set_option autoImplicit false

namespace PlainTx.Decimal

/-- The most digits that are read or written. -/
def digitLimit : Nat := 4300

/-- The number that some digits spell, the most significant one first. -/
def ofDigits (ds : List Nat) : Nat := ds.foldl (fun n d => 10 * n + d) 0

/-- The values of some grouped digits. -/
def digits? (s : List Char) : Option (List Nat) := Text.grouped? Text.decimalDigit? s

/-- Whether a text starts with a minus sign, and what follows its sign. -/
def splitSign : List Char → Bool × List Char
  | '-' :: rest => (true, rest)
  | '+' :: rest => (false, rest)
  | rest => (false, rest)

/-- The integer a text writes, spaces at both ends aside, unless it has too many digits. -/
def readInt? (s : List Char) : Option Int := do
  let (negative, rest) := splitSign (Text.trimBy Text.isSpace s)
  let ds ← digits? rest
  if digitLimit < ds.length then none
  else some (if negative then -(ofDigits ds : Int) else ofDigits ds)

/-- A power of ten. -/
def powTen (n : Nat) : Nat := Nat.pow 10 n

/-- Whether an integer is short enough to be written. -/
def writable (z : Int) : Bool := decide (z.natAbs < powTen digitLimit)

theorem writable_natCast {n : Nat} : writable n = true ↔ n < powTen digitLimit := by
  rw [writable, decide_eq_true_eq, Int.natAbs_natCast]

theorem writable_of_natAbs_le {y z : Int} (h : y.natAbs ≤ z.natAbs) (hz : writable z = true) :
    writable y = true :=
  decide_eq_true (Nat.lt_of_le_of_lt h (of_decide_eq_true hz))

end PlainTx.Decimal
