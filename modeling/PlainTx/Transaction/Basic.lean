/-
**Transactions.**

A transaction moves a value, and may hand over call data, to one recipient.  Recipient, value and
call data are always set; the common fields may still be unset; the slot holds at most one
signature.  Everything but the slot stays as it was when the transaction was made.

Main definitions:

* `PlainTx.Transaction` — a transaction;
* `PlainTx.Transaction.shown` — its printed form;
* `PlainTx.Transaction.assemble` — a transaction from its fields;
* `PlainTx.Transaction.attach` — a transaction with the signatures of an untyped value.
-/

import PlainTx.Address
import PlainTx.CallData
import PlainTx.CommonFields
import PlainTx.Signature.Reader
import PlainTx.Signature.Slot

set_option relaxedAutoImplicit false
set_option autoImplicit false

namespace PlainTx

/-- A transaction. -/
structure Transaction where
  recipient : Address
  value : Quantity
  input : Bytes
  common : CommonFields
  slot : Slot
deriving DecidableEq

namespace Transaction

/-- The signature of a transaction. -/
def signature? (t : Transaction) : Option Signature := t.slot.signature

/-- The signatures of a transaction: one or none. -/
def signatures (t : Transaction) : List Signature := t.slot.signatures

/-- The policy of a transaction. -/
def policy (t : Transaction) : Policy := t.slot.policy

/-- The signatures as an untyped value. -/
def signaturesValue (t : Transaction) : Value := .tuple (t.signatures.map .signature)

/-- The printed form of a transaction. -/
def shown (t : Transaction) : String :=
  "<LegacyTransaction to=" ++ t.recipient.text ++ " value=" ++ t.value.text ++ " nonce=" ++
    (Quantity.optionalValue t.common.nonce).plain ++ " signed=" ++
    (Value.bool t.signature?.isSome).plain ++ ">"

/-! ### Attaching signatures -/

/-- The one signature an untyped value holds, of which there has to be exactly one.  All its parts
are read first, and then the slot is checked, before they are counted. -/
def candidate [Stack] (slot : Slot) (x : Value) : Except Fault Signature := do
  let candidates ← Signature.readAll x
  slot.check
  match candidates with
  | [sig] => .ok sig
  | _ => .error (.notOneSignature candidates.length)

/-- The transaction with the signature an untyped value holds, and the placeholder that was
replaced. -/
def attach [Stack] (t : Transaction) (x : Value) :
    Except Fault (Transaction × Option Signature) := do
  let sig ← candidate t.slot x
  let (slot, replaced) ← t.slot.fill sig
  return ({ t with slot }, replaced)

/-! ### Making a transaction -/

/-- The transaction with the signatures of an untyped value, or with none where it has no parts. -/
def withSignatures [Stack] (t : Transaction) (signatures : Value) : Except Fault Transaction := do
  if (← signatures.length) = 0 then return t
  let (signed, _) ← t.attach signatures
  return signed

/-- The transaction of the given fields.  The policy comes from the setting where none is chosen. -/
def assemble [Stack] (setting : Option String) (recipient : Address) (value : Quantity)
    (input : Bytes) (common : CommonFields) (policy : Option Policy) (signatures : Value) :
    Except Fault Transaction := do
  let p ← Policy.choose setting policy
  withSignatures ⟨recipient, value, input, common, .forTransaction p⟩ signatures

end Transaction

end PlainTx
