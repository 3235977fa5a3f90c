/-
**Slots.**

A slot holds at most one signature.  It can be filled while it is empty, and, if its policy allows
it, while it holds a placeholder.

Main definitions:

* `PlainTx.Policy.ofSetting` — the policy that holds where none is chosen;
* `PlainTx.Policy.choose`, `PlainTx.Policy.ofValue` — the policy that is chosen, and its choice;
* `PlainTx.Slot` — a slot;
* `PlainTx.Slot.available` and `PlainTx.Slot.check` — whether a slot can be filled;
* `PlainTx.Slot.fill` — the filled slot, with the signature that was replaced.
-/

import PlainTx.Fault

set_option relaxedAutoImplicit false
set_option autoImplicit false

namespace PlainTx

namespace Policy

/-- The name of the setting that gives the policy. -/
def settingName : String := "LEGACY_TX_SIGNATURE_POLICY"

/-- The policies as items of a setting. -/
def choices : List (Setting.Choice Policy) := all.map fun p => ⟨p, .text p.text⟩

/-- The policy that a setting gives; placeholders may be replaced where it gives none. -/
def ofSetting (given : Option String) : Except Fault Policy :=
  (Setting.choose settingName choices given false (.item .replaceEmpty)).mapError .setting

/-- The policy that is chosen, or the one of the setting, which is not looked at otherwise. -/
def choose (given : Option String) : Option Policy → Except Fault Policy
  | some p => .ok p
  | none => ofSetting given

/-! ### Choices among untyped values

A policy is not read from other things, as the fields of a transaction are: what is given for it is
a policy, or no value. -/

/-- The choice of a policy as an untyped value. -/
def optionalValue : Option Policy → Value
  | some p => .policy p
  | none => .none

/-- The choice of a policy that an untyped value is. -/
def ofValue : Value → Except Fault (Option Policy)
  | .policy p => .ok (some p)
  | .none => .ok none
  | _ => .error .wrongType

end Policy

/-- A place for one signature. -/
structure Slot where
  policy : Policy
  owner : String
  signature : Option Signature := none
deriving DecidableEq

namespace Slot

/-- The empty slot of a transaction. -/
def forTransaction (policy : Policy) : Slot := { policy, owner := Format.transactionType }

/-- The signatures of a slot: one or none. -/
def signatures (slot : Slot) : List Signature := slot.signature.toList

/-- Whether the slot can be filled. -/
def available (slot : Slot) : Bool := slot.signature.all slot.policy.allowsReplacing

/-- The slot can be filled. -/
def check (slot : Slot) : Except Fault Unit :=
  if slot.available then .ok () else .error (.occupied slot.owner)

/-- The slot with a new signature, and the placeholder that was replaced. -/
def fill (slot : Slot) (sig : Signature) : Except Fault (Slot × Option Signature) := do
  slot.check
  return ({ slot with signature := some sig }, slot.signature)

end Slot

end PlainTx
