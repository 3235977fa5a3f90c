/-
**Settings.**

A setting is a text that is given from outside under a name, or is not given at all.  A caller
either requires it, or offers a default for the case that it is not given, or does neither.

A setting may choose one of several items, each of which goes by a value.  The text that was given
is trimmed and put into lower case, and the first item whose value is exactly that text is chosen;
the values themselves are taken as they are.  A default that is a text or a byte string is treated
like what was given.  An item whose value repeats an earlier one stands for the earlier item.

Main definitions:

* `PlainTx.Setting.given` — the text that a setting is given;
* `PlainTx.Setting.Default`, `PlainTx.Setting.Reading` — what a caller offers, and what is found;
* `PlainTx.Setting.read` — the setting, or what stands in for it;
* `PlainTx.Setting.Choice`, `PlainTx.Setting.choose` — the item a setting chooses.
-/

import PlainTx.Value.Equality
import PlainTx.Text.Blank
import PlainTx.Text.Lowercase

set_option relaxedAutoImplicit false
set_option autoImplicit false

namespace PlainTx.Setting

/-- Why a setting cannot be used. -/
inductive Fault where
  /-- A default is offered for a setting that is required. -/
  | defaultOfRequired
  /-- A required setting is not given. -/
  | notGiven (name : String)
  /-- A choice is neither given nor has it a default. -/
  | noDefault
  /-- What was found, shown as `got`, is the value of no item. -/
  | noChoice (name : String) (values : List String) (got : String)
  /-- The default is neither an item nor a text nor a byte string. -/
  | defaultOfWrongKind
  /-- The text cannot be given to a setting. -/
  | notStorable
  /-- Two items have one name. -/
  | repeatedItem
  /-- No item has the name. -/
  | noSuchItem
deriving DecidableEq

/-- The wording of a fault. -/
def Fault.message : Fault → String
  | .defaultOfRequired => "Using `default` with `required=True` is invalid"
  | .notGiven name => s!"Must set environment variable {name}"
  | .noDefault =>
    "`env_enum` requires either a default value to be specified, or for the variable to be " ++
      "present in the environment"
  | .noChoice name values got =>
    let choices := ", ".intercalate values
    s!"Environment variable {name} must be one of ({choices}). Got: {got}"
  | .defaultOfWrongKind => "the default is neither an item nor a text nor a byte string"
  | .notStorable => "the text holds a character that ends it"
  | .repeatedItem => "two items have one name"
  | .noSuchItem => "no item has the name"

/-! ### Reading a setting -/

/-- What a setting is given, if it is given anything.  The text ends at the character NUL, which can
therefore not be part of it. -/
def given (text : Option String) : Except Fault (Option String) :=
  if text.any (·.contains '\x00') then .error .notStorable else .ok text

/-- What a caller offers in place of a setting that is not given. -/
inductive Default (α : Type) where
  | none
  | item (a : α)
  | value (x : Value)

/-- What is found for a setting. -/
inductive Reading (α : Type) where
  | nothing
  | text (s : String)
  | item (a : α)
  | value (x : Value)

/-- The default as a reading. -/
def Default.reading {α : Type} : Default α → Reading α
  | .none => .nothing
  | .item a => .item a
  | .value x => .value x

/-- What is found for a setting: the given text, or else the default.  A required setting has to be
given and has no default. -/
def read {α : Type} (name : String) (given : Option String) (required : Bool)
    (default : Default α) : Except Fault (Reading α) :=
  match required, default, given with
  | true, .none, some s => .ok (.text s)
  | true, .none, none => .error (.notGiven name)
  | true, _, _ => .error .defaultOfRequired
  | false, _, some s => .ok (.text s)
  | false, default, none => .ok default.reading

/-! ### Choosing an item -/

/-- An item with the value it goes by. -/
structure Choice (α : Type) where
  item : α
  value : Value

/-- The choices of some named values; no name may be used twice. -/
def choicesOf (named : List (String × Value)) : Except Fault (List (Choice String)) :=
  let names := named.map Prod.fst
  if names.eraseDups.length = names.length then .ok (named.map fun (item, value) => ⟨item, value⟩)
  else .error .repeatedItem

/-- The choices without those that repeat the value of an earlier one. -/
def distinct {α : Type} (choices : List (Choice α)) : List (Choice α) :=
  choices.foldl
    (fun kept c => if kept.any (·.value.same c.value) then kept else kept ++ [c]) []

/-- The item that an item stands for. -/
def resolve {α : Type} [BEq α] (choices : List (Choice α)) (a : α) : Except Fault α :=
  match choices.find? (·.item == a) with
  | none => .error .noSuchItem
  | some c => .ok (((choices.find? (·.value.same c.value)).map (·.item)).getD a)

/-- A text as it is compared with the values: trimmed, and in lower case. -/
def normalize (s : String) : String :=
  String.ofList (Text.lower (Text.trimBy Text.isBlank s.toList))

/-- A byte string as it is compared with the values: trimmed, and in lower case, as far as its ASCII
characters go. -/
def normalizeBytes (b : Bytes) : Bytes :=
  let blank (x : UInt8) : Bool := x == 0x20 || (0x09 ≤ x && x ≤ 0x0D)
  let lower (x : UInt8) : UInt8 := if 0x41 ≤ x && x ≤ 0x5A then x + 0x20 else x
  (((b.dropWhile blank).reverse.dropWhile blank).reverse).map lower

/-- What was found, as it is compared with the values, if it is a text or a byte string. -/
def normalized? : Value → Option Value
  | .text s => some (.text (normalize s))
  | .bytes b => some (.bytes (normalizeBytes b))
  | _ => none

/-- The item whose value is what was found, once it is normalized. -/
def find {α : Type} (name : String) (choices : List (Choice α)) (x : Value) : Except Fault α :=
  match normalized? x with
  | none => .error .defaultOfWrongKind
  | some key =>
    match choices.find? (·.value.same key) with
    | some c => .ok c.item
    | none => .error (.noChoice name ((distinct choices).map (·.value.plain)) x.quoted)

/-- The item that a setting chooses. -/
def choose {α : Type} (name : String) (choices : List (Choice α)) (given : Option String)
    (required : Bool) (default : Default α) : Except Fault α := do
  match ← read name given required default with
  | .nothing => .error .noDefault
  | .item a => .ok a
  | .text s => find name choices (.text s)
  | .value x => find name choices x

end PlainTx.Setting
