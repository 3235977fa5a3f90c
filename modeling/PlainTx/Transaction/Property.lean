/-
**Properties of a transaction.**

What can be asked of a transaction by name.  Some properties are computed from one of the two
written forms, which is then journalled.

Main definitions:

* `PlainTx.Transaction.Property` — the properties, and `PlainTx.Transaction.Property.ofName?`;
* `PlainTx.Transaction.get` — a property as an untyped value.
-/

import PlainTx.Transaction.Operation

set_option relaxedAutoImplicit false
set_option autoImplicit false

namespace PlainTx.Transaction

/-- What can be asked of a transaction. -/
inductive Property where
  | recipient
  | value
  | input
  | nonce
  | gasPrice
  | gas
  | chainId
  | signatures
  | signature
  | policy
  | data
  | commonFields
  | shown
  | transactionType
  | signedText
  | signingText
  | signingHash
  | transactionHash
deriving DecidableEq

/-- The property of the given name. -/
def Property.ofName? : String → Option Property
  | "to" => some .recipient
  | "value" => some .value
  | "input" => some .input
  | "nonce" => some .nonce
  | "gas_price" => some .gasPrice
  | "gas" => some .gas
  | "chain_id" => some .chainId
  | "signatures" => some .signatures
  | "signature" => some .signature
  | "signature_policy" => some .policy
  | "data" => some .data
  | "common_fields" => some .commonFields
  | "repr" => some .shown
  | "transaction_type" => some .transactionType
  | "raw_transaction" => some .signedText
  | "rlp_encoding_for_signature" => some .signingText
  | "signing_hash" => some .signingHash
  | "transaction_hash" => some .transactionHash
  | _ => none

/-- The signature of a transaction as an untyped value. -/
def signatureValue (t : Transaction) : Value :=
  match t.signature? with
  | some sig => .signature sig
  | none => .none

/-- A property of the transaction. -/
def get [Stack] (property : Property) : Action Value := do
  let t ← Action.current
  match property with
  | .recipient => return .text t.recipient.text
  | .value => return t.value.value
  | .input => return .text (CallData.text t.input)
  | .nonce => return Quantity.optionalValue t.common.nonce
  | .gasPrice => return Quantity.optionalValue t.common.gasPrice
  | .gas => return Quantity.optionalValue t.common.gas
  | .chainId => return Quantity.optionalValue t.common.chainId
  | .signatures => return t.signaturesValue
  | .signature => return t.signatureValue
  | .policy => return .policy t.policy
  | .data => return .bytes t.input
  | .commonFields =>
    return .dict (t.common.values.fields.map fun (name, x) => (.text name, x))
  | .shown => return .text t.shown
  | .transactionType => return .text Format.transactionType
  | .signedText => return .text (Hex.text (← encode))
  | .signingText => return .text (Hex.text (← encodeForSigning))
  | .signingHash => return .bytes (keccak256 (← encodeForSigning))
  | .transactionHash => return .text (Hex.text (keccak256 (← encode)))

end PlainTx.Transaction
