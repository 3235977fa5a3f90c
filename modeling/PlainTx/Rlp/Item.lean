/-
**Items on the wire.**

Recursive length-prefix encoding.  An item is a byte string or a list of items.  A single byte
below 0x80 stands for itself; every other item is a head, which gives its shape and the length of
its payload, followed by the payload.  A payload of less than 56 bytes has a head of one byte; a
longer one has its length in minimal big-endian form behind the first byte of the head, which has
room for lengths below `2 ^ 64`.

Main definitions:

* `PlainTx.Rlp.Item` — an item;
* `PlainTx.Rlp.head` — the head of a payload;
* `PlainTx.Rlp.encode`, `PlainTx.Rlp.encodeAll` — the encoding of an item, and of several in a row;
* `PlainTx.Rlp.fits` — whether an item is short enough to be written.
-/

import PlainTx.Bytes

set_option relaxedAutoImplicit false
set_option autoImplicit false

namespace PlainTx.Rlp

/-- A byte string or a list of items. -/
inductive Item where
  | bytes (b : Bytes)
  | list (items : List Item)

/-- The head of a payload of the given length; `base` is the first byte of an empty payload of the
same shape. -/
def head (base length : Nat) : Bytes :=
  if length < 56 then [UInt8.ofNat (base + length)]
  else
    let digits := Bytes.ofNat length
    UInt8.ofNat (base + 55 + digits.length) :: digits

/-- The first byte of the empty byte string. -/
def stringBase : Nat := 0x80

/-- The first byte of the empty list. -/
def listBase : Nat := 0xC0

/-- The encoding of a byte string. -/
def encodeBytes (b : Bytes) : Bytes :=
  match b with
  | [x] => if x.toNat < 0x80 then [x] else head stringBase 1 ++ [x]
  | _ => head stringBase b.length ++ b

mutual

/-- The encoding of an item. -/
def encode : Item → Bytes
  | .bytes b => encodeBytes b
  | .list items =>
    let payload := encodeAll items
    head listBase payload.length ++ payload

/-- The encodings of some items in a row. -/
def encodeAll : List Item → Bytes
  | [] => []
  | x :: rest => encode x ++ encodeAll rest

end

/-! ### Items that are too long -/

/-- The lengths below it have a head: `2 ^ 64`. -/
def lengthLimit : Nat := 0x10000000000000000

mutual

/-- Whether every payload of an item, its own one and those inside, is short enough for a head. -/
def fits : Item → Bool
  | .bytes b => decide (b.length < lengthLimit)
  | .list items => allFit items && decide ((encodeAll items).length < lengthLimit)

/-- Whether all items are short enough. -/
def allFit : List Item → Bool
  | [] => true
  | x :: rest => fits x && allFit rest

end

end PlainTx.Rlp
