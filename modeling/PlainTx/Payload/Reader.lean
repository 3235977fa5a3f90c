/-
**Reading payloads.**

The items of a payload are read one after the other, and the first that does not fit its field is
reported.  A number is a byte string that does not start with a zero byte.  A list where a number
belongs is taken for the sequence of its items: the empty one spells zero, and the items of another
one are no digits.

Main definitions:

* `PlainTx.Payload.Fault` — why some bytes are no payload;
* `PlainTx.Payload.readItems`, `PlainTx.Payload.decode` — the payload that some items are, and that
  some bytes encode;
* `PlainTx.Payload.readSigned`, `PlainTx.Payload.decodeSigned` — the same for the signed layout
  alone, with the parts of the payload.
-/

import PlainTx.Format
import PlainTx.Payload.Basic
import PlainTx.Rlp.Reader

set_option relaxedAutoImplicit false
set_option autoImplicit false

namespace PlainTx.Payload

/-- Why an item does not fit its field. -/
inductive Flaw where
  /-- A number starts with a zero byte. -/
  | notMinimal
  /-- A list stands where a byte string belongs. -/
  | listForBytes
  /-- An address is neither empty nor of 20 bytes. -/
  | wrongLength
deriving DecidableEq

/-- Why some bytes are no payload. -/
inductive Fault where
  | wire (fault : Rlp.Fault)
  | notAList
  | arity (found expected : Nat)
  | field (name : String) (flaw : Flaw)
  /-- A list that is not empty stands where a number belongs; `nested` tells whether its first item
  is a list. -/
  | listForNumber (nested : Bool)
deriving DecidableEq

/-- The wording of a flaw. -/
def Flaw.message : Flaw → String
  | .notMinimal => "Invalid serialization (not minimal length)"
  | .listForBytes => "Objects of type list cannot be deserialized"
  | .wrongLength => "<class 'bytes'> has invalid length"

/-- The wording of a fault. -/
def Fault.message : Fault → String
  | .wire fault => fault.message
  | .notAList =>
    "Deserialization failed because of underlying list (\"Can only deserialize sequences\")"
  | .arity found expected =>
    s!"Deserialization failed because of underlying list (\"Deserializing list length ({found}) " ++
      s!"does not match sedes ({expected})\")"
  | .field name flaw =>
    s!"Deserialization failed because of field {name} (\"" ++ flaw.message ++ "\")"
  | .listForNumber nested =>
    let kind := if nested then "list" else "bytes"
    s!"'{kind}' object cannot be interpreted as an integer"

/-! ### Fields -/

/-- The number in a field. -/
def readNumber (name : String) : Rlp.Item → Except Fault Nat
  | .bytes b => if b.head? = some 0 then .error (.field name .notMinimal) else .ok (Bytes.toNat b)
  | .list [] => .ok 0
  | .list (.bytes _ :: _) => .error (.listForNumber false)
  | .list (.list _ :: _) => .error (.listForNumber true)

/-- The byte string in a field. -/
def readBytes (name : String) : Rlp.Item → Except Fault Bytes
  | .bytes b => .ok b
  | .list _ => .error (.field name .listForBytes)

/-- The address in a field, which may be empty. -/
def readAddress (name : String) (item : Rlp.Item) : Except Fault Bytes := do
  let b ← readBytes name item
  if b.length = Format.addressSize ∨ b = [] then .ok b else .error (.field name .wrongLength)

/-- The body, from its six items. -/
def readBody (nonce gasPrice gas recipient value data : Rlp.Item) : Except Fault Body := do
  let nonce ← readNumber "nonce" nonce
  let gasPrice ← readNumber "gas_price" gasPrice
  let gas ← readNumber "gas" gas
  let recipient ← readAddress "to" recipient
  let value ← readNumber "value" value
  let data ← readBytes "data" data
  return ⟨nonce, gasPrice, gas, recipient, value, data⟩

/-! ### Payloads -/

/-- The body and the three numbers of a signature, from the items of the signed layout. -/
def readSigned : List Rlp.Item → Except Fault (Body × Nat × Nat × Nat)
  | [nonce, gasPrice, gas, recipient, value, data, v, r, s] => do
    let body ← readBody nonce gasPrice gas recipient value data
    let v ← readNumber "v" v
    let r ← readNumber "r" r
    let s ← readNumber "s" s
    return (body, v, r, s)
  | items => .error (.arity items.length Layout.signed.names.length)

/-- The payload a list of items is. -/
def readItems : Layout → List Rlp.Item → Except Fault Payload
  | .unsigned, [nonce, gasPrice, gas, recipient, value, data] => do
    return .unsigned (← readBody nonce gasPrice gas recipient value data)
  | .signing, [nonce, gasPrice, gas, recipient, value, data, chainId, rMark, sMark] => do
    let body ← readBody nonce gasPrice gas recipient value data
    let chainId ← readNumber "chain_id" chainId
    let rMark ← readNumber "r_placeholder" rMark
    let sMark ← readNumber "s_placeholder" sMark
    return .signing body chainId rMark sMark
  | .signed, items => do
    let (body, v, r, s) ← readSigned items
    return .signed body v r s
  | layout, items => .error (.arity items.length layout.names.length)

/-- The items of the list some bytes encode. -/
def listItems [Stack] (b : Bytes) : Except Fault (List Rlp.Item) :=
  match Rlp.decode b with
  | .error fault => .error (.wire fault)
  | .ok (.bytes _) => .error .notAList
  | .ok (.list items) => .ok items

/-- The payload some bytes encode. -/
def decode [Stack] (layout : Layout) (b : Bytes) : Except Fault Payload := do
  readItems layout (← listItems b)

/-- The body and the three numbers of a signature that some bytes encode. -/
def decodeSigned [Stack] (b : Bytes) : Except Fault (Body × Nat × Nat × Nat) := do
  readSigned (← listItems b)

end PlainTx.Payload
