/-
**Grouped digits.**

Digits may be set off in groups: one underscore may stand between any two of them, and nowhere
else.

Main definitions:

* `PlainTx.Text.grouped?` — the values of grouped digits.
-/

set_option relaxedAutoImplicit false
set_option autoImplicit false

namespace PlainTx.Text

/-- The values of one or more digits, with at most one underscore between two of them. -/
def grouped? {α : Type} (digit? : Char → Option α) : List Char → Option (List α)
  | [] => none
  | [c] => (digit? c).map ([·])
  | c :: '_' :: rest => do
    let d ← digit? c
    return d :: (← grouped? digit? rest)
  | c :: rest => do
    let d ← digit? c
    return d :: (← grouped? digit? rest)

end PlainTx.Text
