/-
**Quoted texts.**

How texts and byte strings are shown inside messages.  A text stands between single quotes, or
between double quotes when it holds a single quote and no double quote.  Inside, the backslash and
the quote in use are escaped by a backslash, the usual control characters by their letters, and a
character without a visible form by its code in two, four or eight hexadecimal digits.  A byte
string is shown the same way after a letter `b`, all bytes beyond the ASCII characters by their
codes.

Main definitions:

* `PlainTx.Text.quote` — a text in quotes;
* `PlainTx.Text.quoteBytes` — a byte string in quotes.
-/

import PlainTx.Bytes
import PlainTx.Text.Printable

set_option relaxedAutoImplicit false
set_option autoImplicit false

namespace PlainTx.Text

/-- The lower-case hexadecimal digit of a number below sixteen. -/
def hexDigit (n : Nat) : Char :=
  if n < 10 then Char.ofNat (0x30 + n) else Char.ofNat (0x57 + n)

/-- The last `width` hexadecimal digits of a number. -/
def hexWidth : (width : Nat) → Nat → List Char
  | 0, _ => []
  | width + 1, n => hexWidth width (n / 16) ++ [hexDigit (n % 16)]

/-- The code of a character without a visible form, as an escape. -/
def escapeCode (c : Char) : List Char :=
  let n := c.toNat
  if n < 0x100 then '\\' :: 'x' :: hexWidth 2 n
  else if n < 0x10000 then '\\' :: 'u' :: hexWidth 4 n
  else '\\' :: 'U' :: hexWidth 8 n

/-- A character inside a text quoted by `mark`. -/
def escape (mark : Char) (c : Char) : List Char :=
  if c = mark || c = '\\' then ['\\', c]
  else if c = '\n' then ['\\', 'n']
  else if c = '\r' then ['\\', 'r']
  else if c = '\t' then ['\\', 't']
  else if isPrintable c then [c]
  else escapeCode c

/-- The quote that needs the fewest escapes: the single one, unless it occurs and the double one
does not. -/
def quoteMark (s : List Char) : Char :=
  if s.contains '\'' && !s.contains '"' then '"' else '\''

/-- A text in quotes. -/
def quote (s : List Char) : List Char :=
  let mark := quoteMark s
  mark :: s.flatMap (escape mark) ++ [mark]

/-- A byte inside a byte string quoted by `mark`; the bytes beyond ASCII have no visible form. -/
def escapeByte (mark : Char) (x : UInt8) : List Char :=
  if x < 0x80 then escape mark (Char.ofNat x.toNat) else '\\' :: 'x' :: hexWidth 2 x.toNat

/-- A byte string in quotes. -/
def quoteBytes (b : Bytes) : List Char :=
  let mark := quoteMark (b.map fun x => Char.ofNat x.toNat)
  'b' :: mark :: b.flatMap (escapeByte mark) ++ [mark]

end PlainTx.Text
