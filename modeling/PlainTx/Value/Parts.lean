/-
**Parts of untyped values.**

Some values have parts that can be counted and gone through one after the other: the characters of
a text, the numbers of a byte string, the items of a list or a tuple, the keys of a dictionary, the
components of a signature, and the transaction and the fault of an outcome.

Main definitions:

* `PlainTx.Value.length` — the number of parts of a value;
* `PlainTx.Value.parts` — the parts.
-/

import PlainTx.Fault

set_option relaxedAutoImplicit false
set_option autoImplicit false

namespace PlainTx.Value

/-- The number of parts of a value. -/
def length : Value → Except Fault Nat
  | .text s => .ok s.length
  | .bytes b => .ok b.length
  | .list items => .ok items.length
  | .tuple items => .ok items.length
  | .dict entries => .ok entries.length
  | .signature _ => .ok 3
  | .outcome .. => .ok 2
  | _ => .error .wrongType

/-- The parts of a value, one after the other. -/
def parts : Value → Except Fault (List Value)
  | .text s => .ok (s.toList.map fun c => .text (String.singleton c))
  | .bytes b => .ok (b.map fun x => .int x.toNat)
  | .list items => .ok items
  | .tuple items => .ok items
  | .dict entries => .ok (entries.map Prod.fst)
  | .signature sig => .ok [.bytes sig.v, .bytes sig.r, .bytes sig.s]
  | .outcome transaction fault => .ok [transaction, fault]
  | _ => .error .wrongType

end PlainTx.Value
