/-
**The stack.**

Two functions go down one level for every container that stands in another: the one that reads items
from the wire, and the one that prints untyped values in messages.  How many levels there is room
for is no matter of the input.  It depends on the machine, and on whoever calls, because the callers
are on the same stack.  So the room is a parameter of everything that reads or prints, and what
happens where it does not suffice is an outcome like any other.

Main definitions:

* `PlainTx.Stack` — how many levels there is room for;
* `PlainTx.Stack.Usual` — the namespace of the room that is used in examples.
-/

set_option relaxedAutoImplicit false
set_option autoImplicit false

namespace PlainTx

/-- The room on the stack of the machine. -/
class Stack where
  /-- The most levels of items that are read. -/
  reading : Nat
  /-- The most levels of containers around something that is printed. -/
  printing : Nat
  /-- A list of byte strings can be read by every caller. -/
  two_le_reading : 2 ≤ reading

namespace Stack.Usual

/-- Room for a thousand levels. -/
scoped instance thousandLevels : Stack where
  reading := 1000
  printing := 1000
  two_le_reading := by decide

end Stack.Usual

end PlainTx
