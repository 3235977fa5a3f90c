/-
**Building a transaction field by field.**

A builder collects the fields of a transaction.  A setter reads its value at once, and a value that
cannot be read leaves the builder as it was.  Whether the required fields were set is only looked at
when the transaction is built.

Main definitions:

* `PlainTx.Builder` and `PlainTx.Builder.Field` — a builder, and the fields it has setters for;
* `PlainTx.Builder.set` — a builder with one field set;
* `PlainTx.Builder.build` — the transaction.
-/

import PlainTx.Transaction.Arguments

set_option relaxedAutoImplicit false
set_option autoImplicit false

namespace PlainTx

/-- The fields that have been set so far.  The recipient may have been set to the empty address. -/
structure Builder where
  recipient : Option (Option Address) := none
  value : Option Quantity := none
  input : Bytes := []
  common : CommonFields := {}
  signatures : Value := .tuple []
  policy : Option Policy := none

namespace Builder

/-- The fields with setters. -/
inductive Field where
  | recipient
  | value
  | input
  | nonce
  | gas
  | gasPrice
  | chainId
  | signatures
  | policy
deriving DecidableEq

/-- The field of the given name. -/
def Field.ofName? : String → Option Field
  | "to" => some .recipient
  | "value" => some .value
  | "input" => some .input
  | "nonce" => some .nonce
  | "gas" => some .gas
  | "gas_price" => some .gasPrice
  | "chain_id" => some .chainId
  | "signatures" => some .signatures
  | "signature_policy" => some .policy
  | _ => none

/-- The builder with its common fields changed. -/
def withCommon (b : Builder) (change : CommonFields → CommonFields) : Builder :=
  { b with common := change b.common }

/-- The builder with one field set. -/
def set [Stack] (b : Builder) (field : Field) (x : Value) : Except Fault Builder :=
  match field with
  | .recipient => do return { b with recipient := some (← Address.read "to" x) }
  | .value => do return { b with value := some (← Quantity.read "value" x) }
  | .input => do return { b with input := ← CallData.read "input" x }
  | .nonce => do
    let q ← Quantity.read "nonce" x
    return b.withCommon ({ · with nonce := some q })
  | .gas => do
    let q ← Quantity.read "gas" x
    return b.withCommon ({ · with gas := some q })
  | .gasPrice => do
    let q ← Quantity.read "gas_price" x
    return b.withCommon ({ · with gasPrice := some q })
  | .chainId => do
    let q ← Quantity.read "chain_id" x
    return b.withCommon ({ · with chainId := some q })
  | .signatures => .ok { b with signatures := x }
  | .policy => do return { b with policy := ← Policy.ofValue x }

/-- The transaction of the fields that were set. -/
def build [Stack] (setting : Option String) (b : Builder) : Except Fault Transaction :=
  match b.recipient, b.value with
  | none, _ => .error (.missing "to")
  | some _, none => .error (.missing "value")
  | some none, some _ => .error (.missing "to")
  | some (some recipient), some value =>
    Transaction.assemble setting recipient value b.input b.common b.policy b.signatures

end Builder

end PlainTx
