/-
**Faults stated by a caller.**

A caller may state a fault of one of the kinds that transactions have.  A missing field is stated by
its name; a malformed one by its name and its value; in both cases own words may follow.  The other
kinds are stated by their words alone.

Main definitions:

* `PlainTx.Fault.state` — the fault of a kind, from its untyped arguments.
-/

import PlainTx.Fault

set_option relaxedAutoImplicit false
set_option autoImplicit false

namespace PlainTx.Fault

/-- The words that some arguments make: one stands as it is, and several are shown as a tuple. -/
def wordsOf : List Value → String
  | [] => ""
  | [x] => x.plain
  | arguments => (Value.tuple arguments).quoted

variable [Stack]

/-- A value that can be printed. -/
def requirePrinted (x : Value) : Except Fault Unit :=
  match x.obstacle? with
  | some obstacle => .error (.ofObstacle obstacle)
  | none => .ok ()

/-- A missing field without own words. -/
def stateMissing (field : Value) : Except Fault Fault := do
  requirePrinted field
  return .stated .missingField (some field) (field.plain ++ " is missing")

/-- A malformed field without own words. -/
def stateInvalid (field x : Value) : Except Fault Fault := do
  requirePrinted field
  requirePrinted x
  return .stated .invalidFormat (some field) ("Invalid " ++ field.plain ++ ". Got: " ++ x.quoted)

/-- The fault of a kind, from its untyped arguments. -/
def state : Kind → List Value → Except Fault Fault
  | .missingField, [field] => stateMissing field
  | .missingField, [field, .none] => stateMissing field
  | .missingField, [field, words] => .ok (.stated .missingField (some field) words.plain)
  | .missingField, _ => .error .wrongArguments
  | .invalidFormat, [field, x] => stateInvalid field x
  | .invalidFormat, [field, x, .none] => stateInvalid field x
  | .invalidFormat, [field, _, words] =>
    .ok (.stated .invalidFormat (some field) words.plain)
  | .invalidFormat, _ => .error .wrongArguments
  | kind, arguments => .ok (.stated kind none (wordsOf arguments))

end PlainTx.Fault
