/-
**Common fields.**

Nonce, gas price, gas and chain id.  Each is a quantity that may still be unset while a transaction
is being put together; writing it needs the first three, and signing it needs all four.

Main definitions:

* `PlainTx.CommonValues` — the fields as untyped values, and `PlainTx.CommonValues.check`, their
  check;
* `PlainTx.CommonFields` — the fields as quantities, and `PlainTx.CommonFields.read`, their reader.
-/

import PlainTx.Check
import PlainTx.Quantity

set_option relaxedAutoImplicit false
set_option autoImplicit false

namespace PlainTx

/-- The common fields as untyped values. -/
structure CommonValues where
  nonce : Value := .none
  gasPrice : Value := .none
  gas : Value := .none
  chainId : Value := .none

/-- The common fields. -/
structure CommonFields where
  nonce : Option Quantity := none
  gasPrice : Option Quantity := none
  gas : Option Quantity := none
  chainId : Option Quantity := none
deriving DecidableEq

namespace CommonValues

/-- The names of the common fields. -/
def names : List String := ["nonce", "gas_price", "gas", "chain_id"]

/-- The common fields of some named values. -/
def ofFields (fields : List (String × Value)) : Except Fault CommonValues :=
  let given (name : String) : Value := (fields.lookup name).getD .none
  if fields.all fun field => names.contains field.1 then
    .ok ⟨given "nonce", given "gas_price", given "gas", given "chain_id"⟩
  else .error .wrongArguments

/-- The fields that writing needs are quantities, and for signing the chain id is one too. -/
def check [Stack] (fields : CommonValues) (forSigning : Bool) : Except Fault Unit := do
  Check.quantity "gas" fields.gas
  Check.quantity "gas_price" fields.gasPrice
  Check.quantity "nonce" fields.nonce
  if forSigning then Check.quantity "chain_id" fields.chainId

/-- The fields with their names. -/
def fields (c : CommonValues) : List (String × Value) :=
  [("nonce", c.nonce), ("gas_price", c.gasPrice), ("gas", c.gas), ("chain_id", c.chainId)]

end CommonValues

namespace CommonFields

/-- The quantities that the values are. -/
def read [Stack] (x : CommonValues) : Except Fault CommonFields := do
  let nonce ← Quantity.readOptional "nonce" x.nonce
  let gasPrice ← Quantity.readOptional "gas_price" x.gasPrice
  let gas ← Quantity.readOptional "gas" x.gas
  let chainId ← Quantity.readOptional "chain_id" x.chainId
  return ⟨nonce, gasPrice, gas, chainId⟩

/-- The quantities as untyped values. -/
def values (c : CommonFields) : CommonValues :=
  ⟨Quantity.optionalValue c.nonce, Quantity.optionalValue c.gasPrice,
    Quantity.optionalValue c.gas, Quantity.optionalValue c.chainId⟩

end CommonFields

end PlainTx
