/-
**Numbers and bytes of untyped values.**

The number a text denotes, and the minimal big-endian bytes of a number that is given as an
integer, as bytes or as a text.  A truth value counts as one or zero here.

Main definitions:

* `PlainTx.Value.hexNumber` — the number a text denotes;
* `PlainTx.Value.integerBytes` — the minimal bytes of an integer;
* `PlainTx.Value.minimalBytes` — the minimal bytes of a number in any of the three forms.
-/

import PlainTx.Fault
import PlainTx.Hex.Number

set_option relaxedAutoImplicit false
set_option autoImplicit false

namespace PlainTx.Value

/-- The number a text denotes. -/
def hexNumber : Value → Except Fault Int
  | .text s =>
    match Hex.number? s.toList with
    | some z => .ok z
    | .none => .error (.notANumber (String.ofList (Hex.dropMarker s.toList)))
  | _ => .error .wrongType

/-- Whether the value is zero; a floating-point zero may have a sign. -/
def isZero : Value → Bool
  | .real x => x == 0
  | x => x.int? == some 0

/-- The minimal bytes of an integer. -/
def integerBytes (x : Value) : Except Fault Bytes :=
  if x.isZero then .ok []
  else match x.int? with
    | some (.ofNat n) => .ok (Bytes.ofNat n)
    | some (.negSucc _) => .error .negativeBytes
    | .none => .error .noSuchPart

/-- The minimal bytes of a number that is given as an integer, as bytes or as a text. -/
def minimalBytes : Value → Except Fault Bytes
  | .bytes b => .ok (Bytes.stripZeros b)
  | .text s => (Hex.minimalBytes s.toList).mapError .hexText
  | x => x.integerBytes

end PlainTx.Value
