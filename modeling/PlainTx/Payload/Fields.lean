/-
**Payloads from untyped fields.**

A payload is put together from named values.  First the names have to be exactly those of the
layout; then each value has to be of the kind of its field.  A number is an integer that is not
negative, and a truth value is no number here.

Main definitions:

* `PlainTx.Payload.FieldFault` — why some values make no payload;
* `PlainTx.Payload.ofFields` — the payload of some named values.
-/

import PlainTx.Payload.Reader

set_option relaxedAutoImplicit false
set_option autoImplicit false

namespace PlainTx.Payload

/-- Why some named values make no payload. -/
inductive FieldFault where
  /-- A field is missing, or a name is not one of the layout. -/
  | wrongNames
  /-- The value of the field cannot be written. -/
  | unwritable (name : String)
deriving DecidableEq

/-- The value given for a name. -/
def fieldValue (fields : List (String × Value)) (name : String) : Except FieldFault Value :=
  match fields.lookup name with
  | some x => .ok x
  | none => .error .wrongNames

/-- The number given for a name. -/
def givenNumber (fields : List (String × Value)) (name : String) : Except FieldFault Nat := do
  match ← fieldValue fields name with
  | .int (.ofNat n) => .ok n
  | _ => .error (.unwritable name)

/-- The byte string given for a name. -/
def givenBytes (fields : List (String × Value)) (name : String) : Except FieldFault Bytes := do
  match ← fieldValue fields name with
  | .bytes b => .ok b
  | _ => .error (.unwritable name)

/-- The address given for a name, which may be empty. -/
def givenAddress (fields : List (String × Value)) (name : String) : Except FieldFault Bytes := do
  let b ← givenBytes fields name
  if b.length = Format.addressSize ∨ b = [] then .ok b else .error (.unwritable name)

/-- The body of the named values. -/
def bodyOfFields (fields : List (String × Value)) : Except FieldFault Body := do
  let nonce ← givenNumber fields "nonce"
  let gasPrice ← givenNumber fields "gas_price"
  let gas ← givenNumber fields "gas"
  let recipient ← givenAddress fields "to"
  let value ← givenNumber fields "value"
  let data ← givenBytes fields "data"
  return ⟨nonce, gasPrice, gas, recipient, value, data⟩

/-- The payload of the named values. -/
def ofFields (layout : Layout) (fields : List (String × Value)) : Except FieldFault Payload := do
  let given := fields.map Prod.fst
  unless layout.names.all given.contains && given.all layout.names.contains do
    throw .wrongNames
  let body ← bodyOfFields fields
  match layout with
  | .unsigned => return .unsigned body
  | .signing =>
    let chainId ← givenNumber fields "chain_id"
    let rMark ← givenNumber fields "r_placeholder"
    let sMark ← givenNumber fields "s_placeholder"
    return .signing body chainId rMark sMark
  | .signed =>
    let v ← givenNumber fields "v"
    let r ← givenNumber fields "r"
    let s ← givenNumber fields "s"
    return .signed body v r s

/-- The fields of the body with their names. -/
def Body.fields (b : Body) : List (String × Value) :=
  [("nonce", .int b.nonce), ("gas_price", .int b.gasPrice), ("gas", .int b.gas),
    ("to", .bytes b.recipient), ("value", .int b.value), ("data", .bytes b.data)]

/-- The fields of a payload with their names. -/
def fields : Payload → List (String × Value)
  | .unsigned body => body.fields
  | .signing body chainId rMark sMark =>
    body.fields ++
      [("chain_id", .int chainId), ("r_placeholder", .int rMark), ("s_placeholder", .int sMark)]
  | .signed body v r s => body.fields ++ [("v", .int v), ("r", .int r), ("s", .int s)]

end PlainTx.Payload
