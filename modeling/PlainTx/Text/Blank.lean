/-
**Blank characters.**

The white space of the Unicode standard, together with the four ASCII information separators.  A
setting is trimmed of blanks at both ends before it is looked up.  The reader of numbers trims
*spaces*, which are the blanks other than the information separators.

Main definitions:

* `PlainTx.Text.isBlank`, `PlainTx.Text.isSpace` — the two classes;
* `PlainTx.Text.trimBy` — a text without the characters of a class at its ends.
-/

import PlainTx.Text.Range

set_option relaxedAutoImplicit false
set_option autoImplicit false

namespace PlainTx.Text

/-- The Unicode white space characters, the information separators left out. -/
def spaces : Ranges :=
  [(0x09, 0x0D), (0x20, 0x20), (0x85, 0x85), (0xA0, 0xA0), (0x1680, 0x1680), (0x2000, 0x200A),
    (0x2028, 0x2029), (0x202F, 0x202F), (0x205F, 0x205F), (0x3000, 0x3000)]

/-- The ASCII information separators (file, group, record, unit). -/
def separators : Ranges := [(0x1C, 0x1F)]

/-- Unicode white space, the information separators left out. -/
def isSpace (c : Char) : Bool := spaces.has c

/-- Unicode white space or an information separator. -/
def isBlank (c : Char) : Bool := spaces.has c || separators.has c

/-- The text without the characters of a class at its two ends. -/
def trimBy (p : Char → Bool) (s : List Char) : List Char :=
  ((s.dropWhile p).reverse.dropWhile p).reverse

end PlainTx.Text
