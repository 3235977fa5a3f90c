/-
**Transactions from untyped arguments.**

A transaction is made from named arguments.  They are read in a fixed order, and the first that
cannot be read is reported; recipient and value have to be there, and the others have defaults.  A
transaction can be copied with some of its arguments exchanged.

Main definitions:

* `PlainTx.Arguments` — the arguments; `PlainTx.Arguments.ofFields`, those with given names;
* `PlainTx.Transaction.create` — the transaction of some arguments;
* `PlainTx.Transaction.copy` — a copy with some arguments exchanged;
* `PlainTx.Transaction.template` — a transaction from arguments that have other names and defaults.
-/

import PlainTx.Transaction.Basic

set_option relaxedAutoImplicit false
set_option autoImplicit false

namespace PlainTx

/-- The arguments a transaction is made from. -/
structure Arguments where
  recipient : Value
  value : Value
  input : Value := .text Format.emptyInput
  common : CommonValues := {}
  signatures : Value := .tuple []
  policy : Option Policy := none

namespace Arguments

/-- The names of the arguments. -/
def names : List String :=
  ["to", "value", "input", "nonce", "gas", "gas_price", "chain_id", "signatures",
    "signature_policy"]

/-- The arguments with the given names, all of which have to be known. -/
def ofFields (fields : List (String × Value)) : Except Fault Arguments := do
  let given (name : String) (default : Value) : Value := (fields.lookup name).getD default
  unless fields.all fun field => names.contains field.1 do throw .wrongArguments
  match fields.lookup "to", fields.lookup "value" with
  | some recipient, some value =>
    let policy ← Policy.ofValue (given "signature_policy" .none)
    return {
      recipient, value
      input := given "input" (.text Format.emptyInput)
      common := ⟨given "nonce" .none, given "gas_price" .none, given "gas" .none,
        given "chain_id" .none⟩
      signatures := given "signatures" (.tuple [])
      policy }
  | _, _ => throw .wrongArguments

end Arguments

namespace Transaction

/-- The transaction of some arguments, where `setting` gives the policy if they do not. -/
def create [Stack] (setting : Option String) (a : Arguments) : Except Fault Transaction := do
  let some recipient ← Address.read "to" a.recipient | throw (.missing "to")
  let value ← Quantity.read "value" a.value
  let input ← CallData.read "input" a.input
  let common ← CommonFields.read a.common
  assemble setting recipient value input common a.policy a.signatures

/-! ### Copies -/

/-- The arguments of a transaction with their names. -/
def fields (t : Transaction) : List (String × Value) :=
  [("to", .text t.recipient.text), ("value", t.value.value),
    ("input", .text (CallData.text t.input))] ++
    t.common.values.fields ++
    [("signatures", t.signaturesValue), ("signature_policy", .policy t.policy)]

/-- The copy of a transaction with some arguments exchanged; the names that are no arguments are
reported in order, before anything else. -/
def copy [Stack] (setting : Option String) (t : Transaction) (overrides : List (String × Value)) :
    Except Fault Transaction := do
  let unknown := (overrides.map Prod.fst).filter fun name => !Arguments.names.contains name
  unless unknown.isEmpty do
    throw (.unknownFields (unknown.mergeSort fun x y => decide (x ≤ y)))
  create setting (← Arguments.ofFields (overrides ++ t.fields))

/-! ### Templates -/

/-- The names and the defaults of the arguments of a template, apart from the recipient. -/
def templateDefaults : List (String × Value) :=
  [("value", .int 0), ("data", .bytes []), ("nonce", .int 0), ("gas", .int 21000),
    ("gas_price", .int 10), ("chain_id", .int 1), ("signature_policy", .none)]

/-- A transaction that is complete but for its recipient, with some of its arguments given. -/
def template [Stack] (setting : Option String) (given : List (String × Value)) :
    Except Fault Transaction := do
  let known := "to" :: templateDefaults.map Prod.fst
  unless given.all fun field => known.contains field.1 do throw .wrongArguments
  unless (given.lookup "to").isSome do throw .noSuchPart
  let fields := (given ++ templateDefaults).map fun (name, x) =>
    (if name = "data" then "input" else name, x)
  create setting (← Arguments.ofFields fields)

end Transaction

end PlainTx
