/-
**Comparing transactions.**

Two transactions are compared field by field, each field by what it means: quantities as numbers,
an unset one differing from every number; recipients apart from the case of their letters; call
data and signatures exactly.  The chain id is left out, because the signed form does not carry it,
and so is the policy.

Main definitions:

* `PlainTx.Transaction.difference` — the fields in which two transactions disagree;
* `PlainTx.Transaction.equalFields` — whether there are none;
* `PlainTx.Subject` and `PlainTx.Subject.requireEqual` — equality of what may be no transactions.
-/

import PlainTx.Transaction.Basic

set_option relaxedAutoImplicit false
set_option autoImplicit false

namespace PlainTx

namespace Transaction

/-- The number of a quantity that may be unset, as an untyped value. -/
def numberValue : Option Quantity → Value
  | some q => .int q.toNat
  | none => .none

/-- The mismatch of a field, unless it is the same on both sides. -/
def mismatch (field : String) (same : Bool) (left right : Value) : Difference :=
  if same then [] else [⟨field, left, right⟩]

/-- The mismatch of a common field. -/
def commonMismatch (field : String) (left right : Option Quantity) : Difference :=
  mismatch field (left.map Quantity.toNat == right.map Quantity.toNat) (numberValue left)
    (numberValue right)

/-- The fields in which two transactions disagree. -/
def difference (t u : Transaction) (checkSignature : Bool) : Difference :=
  commonMismatch "nonce" t.common.nonce u.common.nonce ++
  commonMismatch "gas_price" t.common.gasPrice u.common.gasPrice ++
  commonMismatch "gas" t.common.gas u.common.gas ++
  mismatch "to" (t.recipient.agrees u.recipient) (.text t.recipient.text)
    (.text u.recipient.text) ++
  mismatch "value" (t.value.toNat == u.value.toNat) (.int t.value.toNat) (.int u.value.toNat) ++
  mismatch "input" (t.input == u.input) (.text (CallData.text t.input))
    (.text (CallData.text u.input)) ++
  if checkSignature then
    mismatch "signatures" (t.signatures == u.signatures) t.signaturesValue u.signaturesValue
  else []

/-- Whether two transactions agree in all fields that are compared. -/
def equalFields (t u : Transaction) (checkSignature : Bool) : Bool :=
  (t.difference u checkSignature).isEmpty

end Transaction

/-- What may be compared: a transaction, or any other value. -/
inductive Subject where
  | transaction (t : Transaction)
  | other (x : Value)

namespace Subject

/-- The kind of a subject. -/
def kind : Subject → String
  | .transaction _ => Entity.transaction.kind
  | .other x => x.kind

/-- The two subjects are equal transactions.  Subjects without a name are named after their kinds.
Two values of one other kind have no fields to compare. -/
def requireEqual (left right : Subject) (leftName rightName : Option String) :
    Except Fault Unit :=
  let leftName := leftName.getD (left.kind ++ "_a")
  let rightName := rightName.getD (right.kind ++ "_b")
  match left, right with
  | .transaction t, .transaction u =>
    if t.equalFields u true then .ok ()
    else .error (.ofDifference (t.difference u true) leftName rightName)
  | left, right =>
    if left.kind = right.kind then .error .noSuchPart
    else .error (.differentKinds leftName left.kind rightName right.kind)

/-- The two subjects, of which it is claimed that they are equal transactions, are so. -/
def claimEqual (expected actual : Subject) : Except Fault Unit :=
  match requireEqual expected actual (some "expected") (some "actual") with
  | .ok () => .ok ()
  | .error .noSuchPart => .error .noSuchPart
  | .error .tooManyDigits => .error .tooManyDigits
  | .error fault => .error (.claimedEqual fault)

end Subject

end PlainTx
