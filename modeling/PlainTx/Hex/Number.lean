/-
**Numbers in base sixteen, read leniently.**

The reader of numbers accepts more than the writer produces: spaces at both ends, a sign, a marker,
single underscores between the digits, and the decimal digits of all scripts.

The grammar, after the spaces at both ends: an optional sign; an optional marker, which one
underscore may follow; digits, between any two of which one underscore may stand.

Main definitions:

* `PlainTx.Hex.grouped?` — digits with single underscores between them;
* `PlainTx.Hex.readInt?` — the reader;
* `PlainTx.Hex.number?` — the number a text denotes after one marker, zero when nothing follows.
-/

import PlainTx.Hex.Text
import PlainTx.Text.Blank
import PlainTx.Text.DecimalDigit
import PlainTx.Text.Grouped

set_option relaxedAutoImplicit false
set_option autoImplicit false

namespace PlainTx.Hex

/-- The ASCII digit with the value of a decimal digit of any script; other characters as they
are. -/
def asciiDigit (c : Char) : Char :=
  match Text.decimalDigit? c with
  | some n => Text.hexDigit n
  | none => c

/-- One or more digits, with at most one underscore between two of them. -/
def grouped? (s : List Char) : Option (List Digit) := Text.grouped? Digit.ofChar? s

/-- The number after the sign. -/
def readNat? (s : List Char) : Option Nat :=
  match splitMarker s with
  | (none, _) => (grouped? s).map toNat
  | (some _, '_' :: rest) => (grouped? rest).map toNat
  | (some _, rest) => (grouped? rest).map toNat

/-- The number a text writes, spaces at both ends aside. -/
def readInt? (s : List Char) : Option Int :=
  match (Text.trimBy Text.isSpace s).map asciiDigit with
  | '-' :: rest => (readNat? rest).map fun n => -(n : Int)
  | '+' :: rest => (readNat? rest).map Int.ofNat
  | rest => (readNat? rest).map Int.ofNat

/-- The number a text denotes after one marker: zero when nothing follows it, and otherwise what
the reader finds. -/
def number? (s : List Char) : Option Int :=
  match dropMarker s with
  | [] => some 0
  | body => readInt? body

end PlainTx.Hex
