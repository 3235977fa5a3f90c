/-
**Characters by ranges of code points.**

A class of characters is written as a list of closed ranges of code points; a character belongs to
the class when its code point lies in one of them.

Main definitions:

* `PlainTx.Text.Ranges` — a class of characters, as ranges of code points;
* `PlainTx.Text.Ranges.has` — membership in a class.
-/

set_option relaxedAutoImplicit false
set_option autoImplicit false

namespace PlainTx.Text

/-- A class of characters: closed ranges of code points. -/
abbrev Ranges := List (Nat × Nat)

/-- Whether the code point of `c` lies in one of the ranges. -/
def Ranges.has (table : Ranges) (c : Char) : Bool :=
  table.any fun range => decide (range.1 ≤ c.toNat) && decide (c.toNat ≤ range.2)

end PlainTx.Text
