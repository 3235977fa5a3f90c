/-
**Sessions.**

A session holds things: transactions, builders, outcomes of attempts, slots and plain values.  A
thing is known by its number and stays the same thing when it changes; names stand for numbers, so
that two names may stand for one thing.  An outcome that holds a transaction holds its number.

Main definitions:

* `PlainTx.Session.Thing` — what a session holds;
* `PlainTx.Session` — a session; `PlainTx.Session.find`, `PlainTx.Session.add`,
  `PlainTx.Session.replace`, `PlainTx.Session.bind` — access to its things and names;
* `PlainTx.Operand`, `PlainTx.Session.resolve` — values that may name things, and the values they
  stand for.
-/

import PlainTx.Builder
import PlainTx.Transaction.Comparison

set_option relaxedAutoImplicit false
set_option autoImplicit false

namespace PlainTx

/-- What a session holds. -/
inductive Session.Thing where
  | transaction (t : Transaction)
  | builder (b : Builder)
  /-- The outcome of an attempt: the number of a transaction, or a fault. -/
  | outcome (o : Except Fault Nat)
  | slot (slot : Slot)
  /-- A slot that was filled with something that is no signature. -/
  | misfilled (slot : Slot) (x : Value)
  | value (x : Value)

/-- The things of a session, their names, and the setting for the policy.  The latest meaning of a
name comes first.  A detailed journal also has the differences that comparisons find. -/
structure Session where
  things : List Session.Thing := []
  names : List (String × Nat) := []
  setting : Option String := none
  detailed : Bool := false

/-- A value that may name things of a session, and whose parts are still to be read. -/
inductive Operand where
  | value (x : Value)
  /-- The integer that a text writes. -/
  | integer (text : String)
  /-- The floating-point number that a text writes. -/
  | real (text : String)
  /-- The policy of the given name. -/
  | policy (name : String)
  | list (items : List Operand)
  | tuple (items : List Operand)
  | dict (entries : List (Operand × Operand))
  /-- The signature of three components. -/
  | signature (components : List Operand)
  | register (name : String)

namespace Session

/-! ### Things and names -/

/-- The number and the thing a name stands for. -/
def find (s : Session) (name : String) : Except Fault (Nat × Thing) :=
  match s.names.lookup name with
  | none => .error (.noSuchRegister name)
  | some number =>
    match s.things[number]? with
    | none => .error (.noSuchRegister name)
    | some thing => .ok (number, thing)

/-- The session with one more thing, and the number of the thing. -/
def add (s : Session) (thing : Thing) : Session × Nat :=
  ({ s with things := s.things ++ [thing] }, s.things.length)

/-- The session with a thing changed. -/
def replace (s : Session) (number : Nat) (thing : Thing) : Session :=
  { s with things := s.things.set number thing }

/-- The session in which a name stands for a number. -/
def bind (s : Session) (name : String) (number : Nat) : Session :=
  { s with names := (name, number) :: s.names }

/-- The transaction a name stands for, with its number. -/
def transaction (s : Session) (name : String) : Except Fault (Nat × Transaction) := do
  match ← s.find name with
  | (number, .transaction t) => .ok (number, t)
  | _ => .error .noSuchPart

/-- The builder a name stands for, with its number. -/
def builder (s : Session) (name : String) : Except Fault (Nat × Builder) := do
  match ← s.find name with
  | (number, .builder b) => .ok (number, b)
  | _ => .error .noSuchPart

/-- What the slot of the transaction, or the slot, that a name stands for holds. -/
def held? (s : Session) (name : String) : Option (List Value) :=
  match s.find name with
  | .ok (_, .transaction t) => some (t.signatures.map .signature)
  | .ok (_, .slot slot) => some (slot.signatures.map .signature)
  | .ok (_, .misfilled _ x) => some [x]
  | _ => none

/-! ### Operands -/

/-- A transaction as an untyped value, by its number. -/
def transactionValue (s : Session) (number : Nat) : Value :=
  match s.things[number]? with
  | some (.transaction t) => .entity .transaction number t.shown
  | _ => .none

/-- The fault of the outcome of the given number, as an untyped value. -/
def faultValue (number : Nat) (fault : Fault) : Value :=
  match fault.kind? with
  | some kind => .entity (.fault kind) number (fault.shown kind)
  | none => .none

/-- The thing of the given number as an untyped value. -/
def asValue (s : Session) (number : Nat) : Thing → Value
  | .transaction t => .entity .transaction number t.shown
  | .builder _ => .entity .builder number "<LegacyTransactionBuilder>"
  | .outcome (.ok transaction) => .outcome (s.transactionValue transaction) .none
  | .outcome (.error fault) => .outcome .none (faultValue number fault)
  | .slot _ => .entity .slot number "<SignatureSlot>"
  | .misfilled .. => .entity .slot number "<SignatureSlot>"
  | .value x => x

/-- The value a name stands for. -/
def named (s : Session) (name : String) : Except Fault Value := do
  let (number, thing) ← s.find name
  return s.asValue number thing

/-- What a reading gives, which has to be something. -/
def readAs {α : Type} (make : α → Value) (reading : Option α) : Except Fault Value :=
  match reading with
  | some a => .ok (make a)
  | none => .error .wrongValue

mutual

/-- The value an operand stands for. -/
def resolve [Stack] (s : Session) : Operand → Except Fault Value
  | .value x => .ok x
  | .integer text => readAs .int (Decimal.readInt? text.toList)
  | .real text => readAs .real (Decimal.readFloat? text.toList)
  | .policy name => readAs .policy (Policy.ofText? name)
  | .list items => do return .list (← resolveAll s items)
  | .tuple items => do return .tuple (← resolveAll s items)
  | .dict entries => do return .dict (← resolveEntries s [] entries)
  | .signature components => do
    match ← resolveAll s components with
    | [v, r, t] => return .signature (← Signature.ofComponents v r t)
    | _ => throw .wrongArguments
  | .register name => s.named name

/-- The values some operands stand for. -/
def resolveAll [Stack] (s : Session) : List Operand → Except Fault (List Value)
  | [] => .ok []
  | x :: rest => do
    let x ← resolve s x
    return x :: (← resolveAll s rest)

/-- The entries of a dictionary, with those that some operands stand for entered one after the
other. -/
def resolveEntries [Stack] (s : Session) (entered : List (Value × Value)) :
    List (Operand × Operand) → Except Fault (List (Value × Value))
  | [] => .ok entered
  | (key, x) :: rest => do
    let key ← resolve s key
    let x ← resolve s x
    if !key.isKey then throw .wrongType
    resolveEntries s (Value.enter key x entered) rest

end

/-- The values of some named operands. -/
def resolveFields [Stack] (s : Session) (fields : List (String × Operand)) :
    Except Fault (List (String × Value)) :=
  fields.mapM fun (name, x) => return (name, ← resolve s x)

/-- What an operand stands for in a comparison. -/
def subject [Stack] (s : Session) : Operand → Except Fault Subject
  | .register name => do
    match ← s.find name with
    | (_, .transaction t) => .ok (.transaction t)
    | (number, thing) => .ok (.other (s.asValue number thing))
  | x => do return .other (← s.resolve x)

end Session

end PlainTx
