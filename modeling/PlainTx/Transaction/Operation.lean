/-
**Operations on a transaction.**

The operations that may change the slot of a transaction, or that are journalled.

Main definitions:

* `PlainTx.Transaction.append` — attaches the signatures of an untyped value;
* `PlainTx.Transaction.sign` — attaches a new signature;
* `PlainTx.Transaction.combine` — attaches the signature that signed copies carry;
* `PlainTx.Transaction.encode`, `PlainTx.Transaction.encodeForSigning`,
  `PlainTx.Transaction.messageForSigning`, `PlainTx.Transaction.recoverSender`,
  `PlainTx.Transaction.compare` — journalled forms of the operations that only look.
-/

import PlainTx.Transaction.Action
import PlainTx.Transaction.Decoding
import PlainTx.Transaction.Encoding

set_option relaxedAutoImplicit false
set_option autoImplicit false

namespace PlainTx.Transaction

open PlainTx.Action (current put record ofExcept)

variable [Stack]

/-! ### Operations that only look -/

/-- The signing form. -/
def encodeForSigning : Action Bytes := do
  let t ← current
  let form ← ofExcept t.signingForm
  record [.signingForm t form]
  return form

/-- The signed form. -/
def encode : Action Bytes := do
  let t ← current
  let form ← ofExcept t.signedForm
  record [.signedForm t form]
  return form

/-- The message a signature of the transaction commits to; it is journalled where it is the signing
form. -/
def messageForSigning : Action Bytes := do
  let t ← current
  match t.signature? with
  | none => encodeForSigning
  | some sig => if sig.isPlaceholder then encodeForSigning else ofExcept t.message

/-- The address of the signer. -/
def recoverSender {Key : Type} (scheme : Scheme Key) : Action String := do
  ofExcept ((← current).sender scheme)

/-- Whether the transaction agrees with another one in all fields that are compared.  A detailed
journal has the difference, which therefore has to be one that can be written. -/
def compare (detailed : Bool) (u : Transaction) (checkSignature : Bool) : Action Bool := do
  let t ← current
  if t.equalFields u checkSignature then return true
  if detailed then
    record [.differs (← ofExcept (t.difference u checkSignature).requireWritable) t u]
  return false

/-! ### Operations on the slot -/

/-- Attaches the signatures of an untyped value, of which there has to be one. -/
def append (x : Value) : Action Unit := do
  let (t, replaced) ← ofExcept ((← current).attach x)
  put t
  record [Event.ofAttach t replaced]

/-- The signature of a key, which commits to the chain of the transaction. -/
def newSignature {Key : Type} (scheme : Scheme Key) (key : Key) : Action Signature := do
  let form ← encodeForSigning
  let chain ← ofExcept (number "chain_id" (← current).common.chainId)
  let (parity, r, s) := scheme.sign key form
  return .ofNumbers (RecoveryId.ofChain chain parity) r s

/-- Attaches a new signature.  The slot is checked before the signature is made. -/
def sign {Key : Type} (scheme : Scheme Key) (key : Key) : Action Signature := do
  ofExcept (← current).slot.check
  let sig ← newSignature scheme key
  append (.signature sig)
  return sig

/-! ### Combining signed copies -/

/-- The transaction a signed copy encodes, which has to agree with this one in everything but its
signature. -/
def readCopy (detailed : Bool) (raw : Value) : Action Transaction := do
  let t ← current
  let copy ← ofExcept (decode t.policy raw)
  record (Event.ofDecoded copy)
  unless ← compare detailed copy false do ofExcept (.error .differentCopy)
  return copy

/-- The signatures collected so far, with that of a copy behind them, unless it is a placeholder or
is held or collected already. -/
def collect (t : Transaction) (collected : List Signature) (copy : Transaction) :
    List Signature :=
  match copy.signature? with
  | none => collected
  | some sig =>
    if sig.isPlaceholder || t.signatures.contains sig || collected.contains sig then collected
    else collected ++ [sig]

/-- The signatures of some copies, behind those collected so far. -/
def collectAll (detailed : Bool) (collected : List Signature) :
    List Value → Action (List Signature)
  | [] => return collected
  | raw :: rest => do
    let copy ← readCopy detailed raw
    collectAll detailed (collect (← current) collected copy) rest

/-- Attaches the signature that signed copies of the transaction carry, if they carry a new one, and
returns the signed form. -/
def combine (detailed : Bool) (raws : Value) : Action Bytes := do
  let collected ← collectAll detailed [] (← ofExcept raws.parts)
  unless collected.isEmpty do append (.list (collected.map .signature))
  encode

end PlainTx.Transaction
