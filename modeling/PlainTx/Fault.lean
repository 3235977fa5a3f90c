/-
**Faults.**

Everything that can go wrong, by cause, and the wording of each cause.

The first group of faults concerns the making, signing and reading of a transaction; every fault of
it has a *kind*, by which callers tell them apart, and the attempts whose outcome is recorded record
these faults and no others.  The other groups concern signatures that cannot be checked, records
that are not equal, settings, texts and bytes that cannot be read, and arguments of a wrong shape.

Main definitions:

* `PlainTx.Fault` — the faults;
* `PlainTx.Fault.kind?` — the kind of a fault of the first group;
* `PlainTx.Fault.field?` — the field a fault concerns;
* `PlainTx.Fault.message` — the wording;
* `PlainTx.Fault.ofFlaw` — the fault that a field cannot take a value, if it can be put into words.
-/

import PlainTx.Curve.Ecdsa
import PlainTx.Difference
import PlainTx.Fault.Kind
import PlainTx.Format
import PlainTx.Hex.Text
import PlainTx.Payload.Fields
import PlainTx.Setting

set_option relaxedAutoImplicit false
set_option autoImplicit false

namespace PlainTx

/-- What is wrong with a value that a field cannot take. -/
inductive Flaw where
  | notHex
  | oddDigits
  | notInteger
  | negative
  | notCanonicalAddress
  | notAddress
  | notSignature
deriving DecidableEq

/-- Whether the words for a flaw show the value, and not only its kind. -/
def Flaw.shows : Flaw → Bool
  | .notInteger => false
  | _ => true

/-- What a signature is needed for. -/
inductive Need where
  /-- The sender is to be recovered. -/
  | sender
  /-- The signed form is to be written. -/
  | encoding
deriving DecidableEq

/-- Everything that can go wrong. -/
inductive Fault where
  /-- A field was never set. -/
  | missing (field : String)
  /-- There is no signature. -/
  | unsigned (need : Need)
  /-- A field cannot take the value. -/
  | malformed (field : String) (value : Value) (flaw : Flaw)
  /-- A signature that may not be replaced is held already. -/
  | occupied (owner : String)
  /-- Not one signature is given, but that many. -/
  | notOneSignature (count : Nat)
  /-- Some input is no transaction. -/
  | undecodable (cause : Fault)
  /-- A fault in words of its own. -/
  | stated (kind : Fault.Kind) (field : Option Value) (words : String)
  /-- The recovery id belongs to no scheme. -/
  | unsupportedRecoveryId (v : Value)
  /-- The signature commits to another chain than the transaction. -/
  | foreignChain (signed own : Nat)
  /-- A copy to combine with differs in more than its signature. -/
  | differentCopy
  /-- The public key cannot be recovered. -/
  | badSignature (why : Ecdsa.Rejection)
  /-- The bytes of a private key spell none. -/
  | invalidKey
  /-- Two named records are of different kinds. -/
  | differentKinds (leftName leftKind rightName rightKind : String)
  /-- Two named records differ. -/
  | unequal (difference : Difference) (leftName rightName : String)
  /-- Two records that were claimed to be equal are not. -/
  | claimedEqual (why : Fault)
  /-- A setting cannot be used. -/
  | setting (fault : Setting.Fault)
  /-- A name belongs to no policy. -/
  | noSuchPolicy
  /-- A text is no number. -/
  | notANumber (text : String)
  /-- A negative number has no bytes. -/
  | negativeBytes
  /-- A text spells no bytes. -/
  | hexText (fault : Hex.Fault)
  /-- Some bytes are no payload. -/
  | payload (fault : Payload.Fault)
  /-- Some values make no payload. -/
  | payloadFields (fault : Payload.FieldFault)
  /-- A payload has too many bytes to be written. -/
  | tooLong
  /-- There are no fields of these names. -/
  | unknownFields (names : List String)
  /-- The names of the arguments do not fit the operation. -/
  | wrongArguments
  /-- A number in a message has too many digits to be written. -/
  | tooManyDigits
  /-- A value in a message is nested too deeply to be printed. -/
  | tooDeeplyNested
  /-- A value of this kind cannot be used here. -/
  | wrongType
  /-- A value of this kind can be used here, but not this one. -/
  | wrongValue
  /-- A value of this kind does not have the part that is asked for. -/
  | noSuchPart
  /-- No register has the name. -/
  | noSuchRegister (name : String)

namespace Fault

open Format (transactionType)

/-- The kind of a fault in the making, signing or reading of a transaction. -/
def kind? : Fault → Option Kind
  | .missing _ => some .missingField
  | .unsigned _ => some .missingField
  | .malformed .. => some .invalidFormat
  | .occupied _ => some .signatureConflict
  | .notOneSignature _ => some .signatureCardinality
  | .undecodable _ => some .decodeFailure
  | .stated kind _ _ => some kind
  | _ => none

/-- The field a fault concerns. -/
def field? : Fault → Option Value
  | .missing field => some (.text field)
  | .unsigned _ => some (.text "signatures")
  | .malformed field _ _ => some (.text field)
  | .stated _ field _ => field
  | _ => none

/-- The wording of a flaw in a value of a field. -/
def flawMessage (field : String) (value : Value) : Flaw → String
  | .notHex => field ++ " must be a hex string. Got: " ++ value.quoted
  | .oddDigits => field ++ " must have an even number of hex digits. Got: " ++ value.quoted
  | .notInteger => field ++ " must be an integer. Got: " ++ value.shownKind
  | .negative => field ++ " cannot be negative. Got: " ++ value.plain
  | .notCanonicalAddress => field ++ " " ++ value.quoted ++ " is not a valid canonical address"
  | .notAddress => "Invalid address. " ++ field ++ " must be 20 bytes. Got: " ++ value.quoted
  | .notSignature =>
    "A signature must be a SignatureData or a (v, r, s) triple. Got: " ++ value.quoted

/-- The most characters that a refused number is shown with. -/
def shownNumberLimit : Nat := 200

/-- The wording of a fault. -/
def message : Fault → String
  | .missing field => s!"{field} is missing"
  | .unsigned .sender => "Cannot recover the sender of an unsigned transaction"
  | .unsigned .encoding => s!"{transactionType} must be signed before it is RLP-encoded"
  | .malformed field value flaw => flawMessage field value flaw
  | .occupied owner =>
    s!"Signatures already defined. {owner} cannot include more than one signature."
  | .notOneSignature count =>
    s!"Signatures are too long. {transactionType} must include exactly one signature, " ++
      s!"got {count}."
  | .undecodable cause =>
    s!"There is an error while decoding {transactionType}: " ++ cause.message
  | .stated _ _ words => words
  | .unsupportedRecoveryId v => "Unsupported signature v value: " ++ v.plain
  | .foreignChain signed own =>
    s!"Signature was made for chain {signed}, but the transaction is for chain {own}"
  | .differentCopy => "Transactions containing different information cannot be combined."
  | .badSignature why => "Bad Signature: " ++ why.message
  | .invalidKey => "the bytes spell no private key"
  | .differentKinds leftName leftKind rightName rightKind =>
    s!"{leftName} ({leftKind}) and {rightName} ({rightKind}) are different transaction kinds"
  | .unequal difference leftName rightName => difference.report leftName rightName
  | .claimedEqual why => why.message
  | .setting fault => fault.message
  | .noSuchPolicy => "no policy has this name"
  | .notANumber text =>
    let shown := String.ofList ((Text.quote text.toList).take shownNumberLimit)
    s!"invalid literal for int() with base 16: {shown}"
  | .negativeBytes => "a negative number has no bytes"
  | .hexText fault => fault.message
  | .payload fault => fault.message
  | .payloadFields _ => "the values make no payload"
  | .tooLong => "Item too big to encode"
  | .unknownFields names =>
    let shown := ", ".intercalate names
    s!"Unknown LegacyTransaction fields: {shown}"
  | .wrongArguments => "the names of the arguments do not fit"
  | .tooManyDigits =>
    let limit := Decimal.digitLimit
    s!"Exceeds the limit ({limit} digits) for integer string conversion; " ++
      "use sys.set_int_max_str_digits() to increase the limit"
  | .tooDeeplyNested => "a value is nested too deeply to be printed"
  | .wrongType => "a value of this kind cannot be used here"
  | .wrongValue => "this value cannot be used here"
  | .noSuchPart => "a value of this kind has no such part"
  | .noSuchRegister name => s!"no register has the name {name}"

/-- The printed form of a fault of the given kind. -/
def shown (kind : Kind) (fault : Fault) : String :=
  kind.label ++ "(" ++ (Value.text fault.message).quoted ++ ")"

/-! ### Faults whose words cannot be written

The words of a fault are written where the fault arises.  If they show something that cannot be
written, then that is the fault. -/

/-- The fault that something stands in the way of printing a value. -/
def ofObstacle : Value.Obstacle → Fault
  | .tooManyDigits => .tooManyDigits
  | .tooDeep => .tooDeeplyNested

/-- A fault whose words show a value. -/
def showing [Stack] (x : Value) (fault : Fault) : Fault :=
  match x.obstacle? with
  | some obstacle => ofObstacle obstacle
  | none => fault

/-- The fault that a field cannot take a value. -/
def ofFlaw [Stack] (field : String) (x : Value) (flaw : Flaw) : Fault :=
  if flaw.shows then showing x (.malformed field x flaw) else .malformed field x flaw

@[simp] theorem ofFlaw_text [Stack] (field s : String) (flaw : Flaw) :
    ofFlaw field (.text s) flaw = .malformed field (.text s) flaw := by
  cases flaw <;> rfl

/-- The fault that the signature commits to another chain than the transaction. -/
def ofForeignChain (signed own : Nat) : Fault :=
  if Decimal.writable signed && Decimal.writable own then .foreignChain signed own
  else .tooManyDigits

/-- The fault that no public key can be recovered. -/
def ofRejection : Ecdsa.Rejection → Fault
  | .scalarTooLarge n =>
    if Decimal.writable n then .badSignature (.scalarTooLarge n) else .wrongValue
  | why => .badSignature why

/-- The fault that two named records differ. -/
def ofDifference (difference : Difference) (leftName rightName : String) : Fault :=
  if difference.writable then .unequal difference leftName rightName else .tooManyDigits

end Fault

/-- The encoding of a payload that is short enough to be written. -/
def Payload.write (p : Payload) : Except PlainTx.Fault Bytes :=
  if p.fits then .ok p.encode else .error .tooLong

/-- A difference that can be written. -/
def Difference.requireWritable (d : Difference) : Except Fault Difference :=
  if d.writable then .ok d else .error .tooManyDigits

end PlainTx
