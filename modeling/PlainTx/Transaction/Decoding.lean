/-
**Reading transactions.**

A signed form is read back into a transaction.  It may be given as bytes or as their hexadecimal
text.  The chain id is not part of the form: it is the one the recovery id commits to, or unset.
Every fault of the input is reported as the cause of one fault, that the input is undecodable; only
what is nested too deeply is given up before that is known.

Main definitions:

* `PlainTx.Transaction.decode` — the transaction an untyped value is the signed form of;
* `PlainTx.capture` — an attempt whose outcome is recorded.
-/

import PlainTx.Signature.RecoveryId
import PlainTx.Transaction.Basic

set_option relaxedAutoImplicit false
set_option autoImplicit false

namespace PlainTx

namespace Transaction

/-- The bytes of an input: bytes as they are, or those a text spells. -/
def inputBytes : Value → Except Fault Bytes
  | .bytes b => .ok b
  | .text s => (Hex.decode s.toList).mapError .hexText
  | x => .error (.payload (.wire (.notBytes x.kind)))

/-- The transaction of a body and the three numbers of its signature. -/
def ofPayload [Stack] (policy : Policy) (body : Payload.Body) (v r s : Nat) :
    Except Fault Transaction := do
  let some recipient := Address.ofBytes? body.recipient | throw (.missing "to")
  let common : CommonFields :=
    { nonce := some (.ofNat body.nonce)
      gasPrice := some (.ofNat body.gasPrice)
      gas := some (.ofNat body.gas)
      chainId := (RecoveryId.chain? v).map .ofNat }
  let t : Transaction :=
    ⟨recipient, .ofNat body.value, body.data, common, .forTransaction policy⟩
  let (signed, _) ← t.attach (.signature (.ofNumbers v r s))
  return signed

/-- The transaction whose signed form is given, with the first fault that is found. -/
def read [Stack] (policy : Policy) (x : Value) : Except Fault Transaction := do
  let (body, v, r, s) ← (Payload.decodeSigned (← inputBytes x)).mapError .payload
  ofPayload policy body v r s

/-- The fault that is reported for a fault of the input. -/
def faultOfInput : Fault → Fault
  | .payload (.wire .tooDeep) => .payload (.wire .tooDeep)
  | cause => .undecodable cause

/-- The transaction whose signed form is given. -/
def decode [Stack] (policy : Policy) (x : Value) : Except Fault Transaction :=
  (read policy x).mapError faultOfInput

/-- The transaction whose signed form is given, with the policy of the setting if none is chosen;
the setting is looked at before the input. -/
def decodeWith [Stack] (setting : Option String) (policy : Option Policy) (x : Value) :
    Except Fault Transaction := do
  decode (← Policy.choose setting policy) x

end Transaction

/-- The recorded outcome of an attempt.  Only the faults that have a kind are recorded; the others
end the attempt. -/
def capture {α : Type} : Except Fault α → Except Fault (Except Fault α)
  | .ok a => .ok (.ok a)
  | .error fault => if fault.kind?.isSome then .ok (.error fault) else .error fault

end PlainTx
