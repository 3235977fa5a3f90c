/-
**Kinds of faults.**

The faults in the making, signing and reading of a transaction are of a few kinds, by which callers
tell them apart.

Main definitions:

* `PlainTx.Fault.Kind` — the kinds;
* `PlainTx.Fault.Kind.text`, `PlainTx.Fault.Kind.label` — the name of a kind in answers, and the
  name under which a fault of it is shown.
-/

set_option relaxedAutoImplicit false
set_option autoImplicit false

namespace PlainTx.Fault

/-- The kinds of faults in the making, signing and reading of a transaction. -/
inductive Kind where
  | missingField
  | invalidFormat
  | signatureConflict
  | signatureCardinality
  | decodeFailure
deriving DecidableEq

/-- The name of a kind. -/
def Kind.text : Kind → String
  | .missingField => "missing-field"
  | .invalidFormat => "invalid-format"
  | .signatureConflict => "signature-conflict"
  | .signatureCardinality => "signature-cardinality"
  | .decodeFailure => "decode-failure"

/-- The name under which a fault of a kind is shown. -/
def Kind.label : Kind → String
  | .missingField => "MissingFieldError"
  | .invalidFormat => "InvalidFormatError"
  | .signatureConflict => "SignatureConflictError"
  | .signatureCardinality => "SignatureCardinalityError"
  | .decodeFailure => "DecodeError"

end PlainTx.Fault
