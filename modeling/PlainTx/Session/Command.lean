/-
**Commands.**

What can be asked of a session.  A command may work on a thing, which is named by the step it is
part of, and the thing it results in may get a name.

Main definitions:

* `PlainTx.Command` — a command, and `PlainTx.TransactionCommand`, `PlainTx.BuilderCommand`,
  `PlainTx.SlotCommand` — those on a thing;
* `PlainTx.Step` — a command with the names it is given;
* `PlainTx.Answer` — what a command answers.
-/

import PlainTx.Session.Basic
import PlainTx.Transaction.Property

set_option relaxedAutoImplicit false
set_option autoImplicit false

namespace PlainTx

/-- What can be asked of a transaction. -/
inductive TransactionCommand where
  | copy (overrides : List (String × Operand))
  | append (signatures : Operand)
  | sign (key : Operand)
  | combine (raws : Operand)
  | get (name : String)
  | encode
  | encodeForSigning
  | message
  | sender
  | captureSender
  | validate (forSigning : Bool)

/-- What can be asked of a builder. -/
inductive BuilderCommand where
  | set (field : String) (x : Operand)
  | build
  | finalize

/-- What can be asked of a slot. -/
inductive SlotCommand where
  | fill (signature : Operand)
  | check
  | get

/-- What can be asked of a session. -/
inductive Command where
  | changeSetting (setting : Option String)
  | defaultPolicy
  | newBuilder
  | newSlot (policy owner : String)
  | create (fields : List (String × Operand))
  | template (fields : List (String × Operand)) (key : Operand)
  | decode (raw policy : Operand)
  | tryDecode (raw policy : Operand)
  | unwrap
  | onTransaction (command : TransactionCommand)
  | onBuilder (command : BuilderCommand)
  | onSlot (command : SlotCommand)
  | compare (left : String) (right : Operand) (checkSignature : Bool)
  | difference (left right : String) (checkSignature : Bool)
  | claimEqual (expected actual : Operand)
  | requireEqual (left right : Operand) (leftName rightName : Option String)

/-- A command, the name of the thing it works on, and the name for the thing it results in. -/
structure Step where
  command : Command
  target : Option String := none
  keep : Option String := none

/-- What a command answers. -/
inductive Answer where
  | value (x : Value)
  | snapshot (t : Transaction)
  | outcome (o : Except Fault Transaction)
  | sender (o : Except Fault String)
  | difference (d : Difference)
  /-- What a slot holds. -/
  | held (items : List Value)

/-- The answer that says nothing. -/
def Answer.nothing : Answer := .value .none

end PlainTx
