/-
**Untyped values.**

What a caller may pass where a quantity, an address, call data or a signature is expected: the
value may be of the wrong kind altogether, and messages show it.  A value has two printed forms.
The *quoted* form puts texts and byte strings between quotes; the *plain* form leaves a text as it
is.  Inside lists, tuples and dictionaries everything is quoted.

Main definitions:

* `PlainTx.Value` — an untyped value;
* `PlainTx.Value.kind`, `PlainTx.Value.shownKind` — the name of the kind of a value, and the kind as
  messages show it;
* `PlainTx.Value.quoted`, `PlainTx.Value.plain` — the two printed forms.
-/

import PlainTx.Decimal.Real
import PlainTx.Fault.Kind
import PlainTx.Signature.Basic
import PlainTx.Text.Quoted

set_option relaxedAutoImplicit false
set_option autoImplicit false

namespace PlainTx

/-- The things of a session that can be named where a value is expected. -/
inductive Entity where
  | transaction
  | builder
  | slot
  | fault (kind : Fault.Kind)
deriving DecidableEq

/-- An untyped value. -/
inductive Value where
  | none
  | bool (b : Bool)
  | int (z : Int)
  | real (x : Float)
  | text (s : String)
  | bytes (b : Bytes)
  | list (items : List Value)
  | tuple (items : List Value)
  /-- A dictionary, in the order in which its entries were put in. -/
  | dict (entries : List (Value × Value))
  | signature (sig : Signature)
  | policy (p : Policy)
  /-- The outcome of an attempt: a transaction and no fault, or no transaction and a fault. -/
  | outcome (transaction fault : Value)
  /-- A thing of the session, of which only the kind, the number and the printed form can be
  seen. -/
  | entity (kind : Entity) (number : Nat) (shown : String)

/-- The short name of a kind of entity. -/
def Entity.kind : Entity → String
  | .transaction => "LegacyTransaction"
  | .builder => "LegacyTransactionBuilder"
  | .slot => "SignatureSlot"
  | .fault kind => kind.label

/-- The full name of a kind of entity. -/
def Entity.path : Entity → String
  | .transaction => "legacy_tx.transactions.legacy.LegacyTransaction"
  | .builder => "legacy_tx.transactions.builder.LegacyTransactionBuilder"
  | .slot => "legacy_tx.signature.SignatureSlot"
  | .fault kind => "legacy_tx.exceptions." ++ kind.label

namespace Value

/-! ### Kinds -/

/-- The short name of the kind of a value. -/
def kind : Value → String
  | .none => "NoneType"
  | .bool _ => "bool"
  | .int _ => "int"
  | .real _ => "float"
  | .text _ => "str"
  | .bytes _ => "bytes"
  | .list _ => "list"
  | .tuple _ => "tuple"
  | .dict _ => "dict"
  | .signature _ => "SignatureData"
  | .policy _ => "SignaturePolicy"
  | .outcome .. => "TransactionResult"
  | .entity e .. => e.kind

/-- The full name of the kind of a value. -/
def path : Value → String
  | .signature _ => "legacy_tx.signature.SignatureData"
  | .policy _ => "legacy_tx.signature.SignaturePolicy"
  | .outcome .. => "legacy_tx.transactions.result.TransactionResult"
  | .entity e .. => e.path
  | x => x.kind

/-- The kind of a value as messages show it: policies are told apart from the rest, because there is
only a fixed number of them. -/
def shownKind : Value → String
  | .policy _ => "<enum 'SignaturePolicy'>"
  | x => "<class '" ++ x.path ++ "'>"

/-- The number a value counts as, a truth value counting as one or zero. -/
def int? : Value → Option Int
  | .int z => some z
  | .bool b => some (if b then 1 else 0)
  | _ => Option.none

/-! ### Printed forms -/

/-- A byte string in quotes, as a text. -/
def quotedBytes (b : Bytes) : String := String.ofList (Text.quoteBytes b)

/-- A signature with the names of its components. -/
def quotedSignature (sig : Signature) : String :=
  "SignatureData(v=" ++ quotedBytes sig.v ++ ", r=" ++ quotedBytes sig.r ++ ", s=" ++
    quotedBytes sig.s ++ ")"

/-- The parts, separated by commas. -/
def commaSeparated (parts : List String) : String := ", ".intercalate parts

/-- A tuple of one item keeps a comma behind it. -/
def quotedTuple : List String → String
  | [x] => "(" ++ x ++ ",)"
  | parts => "(" ++ commaSeparated parts ++ ")"

mutual

/-- The printed form in which texts stand between quotes. -/
def quoted : Value → String
  | .none => "None"
  | .bool true => "True"
  | .bool false => "False"
  | .int z => toString z
  | .real x => Decimal.writeFloat x
  | .text s => String.ofList (Text.quote s.toList)
  | .bytes b => quotedBytes b
  | .list items => "[" ++ commaSeparated (quotedItems items) ++ "]"
  | .tuple items => quotedTuple (quotedItems items)
  | .dict entries => "\x7b" ++ commaSeparated (quotedEntries entries) ++ "\x7d"
  | .signature sig => quotedSignature sig
  | .policy p => "<SignaturePolicy." ++ p.label ++ ": '" ++ p.text ++ "'>"
  | .outcome transaction fault =>
    "TransactionResult(transaction=" ++ quoted transaction ++ ", error=" ++ quoted fault ++ ")"
  | .entity _ _ shown => shown

/-- The quoted forms of some values. -/
def quotedItems : List Value → List String
  | [] => []
  | x :: rest => quoted x :: quotedItems rest

/-- The quoted forms of the entries of a dictionary. -/
def quotedEntries : List (Value × Value) → List String
  | [] => []
  | (key, x) :: rest => (quoted key ++ ": " ++ quoted x) :: quotedEntries rest

end

/-- The printed form in which a text stands as it is. -/
def plain : Value → String
  | .text s => s
  | .policy p => "SignaturePolicy." ++ p.label
  | x => x.quoted

end Value

end PlainTx
