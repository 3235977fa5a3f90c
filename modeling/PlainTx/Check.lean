/-
**Checks of untyped values.**

Each check passes or names what is wrong with a value.  They look at the value as it is given; a
marker may be missing from a text that passes.

Main definitions:

* `PlainTx.Check.present`, `PlainTx.Check.hexText`, `PlainTx.Check.hexBytes`,
  `PlainTx.Check.unsigned`, `PlainTx.Check.quantity` — values and numbers;
* `PlainTx.Check.canonicalAddress`, `PlainTx.Check.address`, `PlainTx.Check.recipient` — addresses.
-/

import PlainTx.Address

set_option relaxedAutoImplicit false
set_option autoImplicit false

namespace PlainTx.Check

variable [Stack]

/-- The value is given. -/
def present (title : String) : Value → Except Fault Unit
  | .none => .error (.missing title)
  | _ => .ok ()

/-- The value is a hexadecimal text. -/
def hexText (title : String) : Value → Except Fault Unit
  | .text s =>
    if (Hex.scan s.toList).isSome then .ok () else .error (.ofFlaw title (.text s) .notHex)
  | x => .error (.ofFlaw title x .notHex)

/-- The value is a hexadecimal text with an even number of digits. -/
def hexBytes (title : String) (x : Value) : Except Fault Unit := do
  hexText title x
  match x with
  | .text s =>
    if (Hex.dropMarker s.toList).length % 2 = 1 then .error (.ofFlaw title x .oddDigits)
    else .ok ()
  | _ => .ok ()

/-- The value is an integer that is not negative; a truth value is no integer. -/
def unsigned (title : String) : Value → Except Fault Unit
  | .int z => if z < 0 then .error (.ofFlaw title (.int z) .negative) else .ok ()
  | x => .error (.ofFlaw title x .notInteger)

/-- The value is given and is a hexadecimal text. -/
def quantity (title : String) (x : Value) : Except Fault Unit := do
  present title x
  hexText title x

/-- The value is twenty bytes. -/
def canonicalAddress (title : String) : Value → Except Fault Unit
  | .bytes b =>
    if b.length = Format.addressSize then .ok ()
    else .error (.ofFlaw title (.bytes b) .notCanonicalAddress)
  | x => .error (.ofFlaw title x .notCanonicalAddress)

/-- The value is the text of an address, which may be empty. -/
def address (title : String) : Value → Except Fault Unit
  | .text s =>
    if s = Format.emptyAddress ∨ (Address.ofText? s).isSome then .ok ()
    else .error (.ofFlaw title (.text s) .notAddress)
  | x => .error (.ofFlaw title x .notAddress)

/-- The value is given and is the text of an address that is not empty. -/
def recipient (title : String) (x : Value) : Except Fault Unit := do
  present title x
  address title x
  match x with
  | .text s => if s = Format.emptyAddress then .error (.missing title) else .ok ()
  | _ => .ok ()

end PlainTx.Check
