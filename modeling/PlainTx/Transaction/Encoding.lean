/-
**Writing transactions.**

A transaction is written in two forms.  The *signing form* is the message that a signer commits to;
the *signed form* is the one in which the transaction travels.  The message of a transaction that
already has a signature is the one its signature commits to, which the recovery id tells.

Main definitions:

* `PlainTx.Transaction.check` — what writing needs is set;
* `PlainTx.Transaction.signingPayload`, `PlainTx.Transaction.signedPayload` — what is written;
* `PlainTx.Transaction.signingForm`, `PlainTx.Transaction.signedForm` — the two forms;
* `PlainTx.Transaction.message` — the message a signature of the transaction commits to;
* `PlainTx.Transaction.sender` — the address of the signer.
-/

import PlainTx.Signature.RecoveryId
import PlainTx.Transaction.Basic
import PlainTx.Scheme

set_option relaxedAutoImplicit false
set_option autoImplicit false

namespace PlainTx.Transaction

variable [Stack]

/-- The recipient, the value and the common fields that writing needs are set, and for signing the
chain id is set too. -/
def check (t : Transaction) (forSigning : Bool) : Except Fault Unit := do
  Check.recipient "to" (.text t.recipient.text)
  Check.quantity "value" t.value.value
  t.common.values.check forSigning

/-- The number of a common field, which has to be set. -/
def number (title : String) : Option Quantity → Except Fault Nat
  | some q => .ok q.toNat
  | none => .error (.missing title)

/-- The six fields as they are written. -/
def body (t : Transaction) : Except Fault Payload.Body := do
  let nonce ← number "nonce" t.common.nonce
  let gasPrice ← number "gas_price" t.common.gasPrice
  let gas ← number "gas" t.common.gas
  return ⟨nonce, gasPrice, gas, t.recipient.toBytes, t.value.toNat, t.input⟩

/-- The payload of the message of the scheme that commits to a chain. -/
def payloadForChain (t : Transaction) (chain : Nat) : Except Fault Payload := do
  return .signing (← t.body) chain 0 0

/-- The payload of the signing form: the one that commits to the chain of the transaction. -/
def signingPayload (t : Transaction) : Except Fault Payload := do
  t.payloadForChain (← number "chain_id" t.common.chainId)

/-- The signing form. -/
def signingForm (t : Transaction) : Except Fault Bytes := do
  t.check true
  (← t.signingPayload).write

/-- The payload of the signed form. -/
def signedPayload (t : Transaction) : Except Fault Payload :=
  match t.signature? with
  | none => .error (.unsigned .encoding)
  | some sig => do
    let (v, r, s) := sig.numbers
    return .signed (← t.body) v r s

/-- The signed form. -/
def signedForm (t : Transaction) : Except Fault Bytes := do
  t.check false
  (← t.signedPayload).write

/-- The message that the recovery id `v` commits to.  A chain it commits to has to be the one of
the transaction, if that is set. -/
def messageFor (t : Transaction) (v : Nat) : Except Fault Bytes := do
  match RecoveryId.chain? v with
  | none =>
    t.check false
    (Payload.unsigned (← t.body)).write
  | some chain =>
    match t.common.chainId with
    | some own => if own.toNat ≠ chain then throw (.ofForeignChain chain own.toNat)
    | none => pure ()
    t.check false
    (← t.payloadForChain chain).write

/-- The message a signature of the transaction commits to; while there is none but a placeholder,
it is the signing form. -/
def message (t : Transaction) : Except Fault Bytes :=
  match t.signature? with
  | none => t.signingForm
  | some sig => if sig.isPlaceholder then t.signingForm else t.messageFor sig.numbers.1

/-- The address of the signer. -/
def sender {Key : Type} (scheme : Scheme Key) (t : Transaction) : Except Fault String := do
  match t.signature? with
  | none => .error (.unsigned .sender)
  | some sig =>
    let (v, r, s) := sig.numbers
    match RecoveryId.parity? v with
    | none => .error (.unsupportedRecoveryId (.int v))
    | some parity => (scheme.recover parity r s (← t.message)).mapError .ofRejection

end PlainTx.Transaction
