/-
**Call data.**

The bytes a transaction hands to its recipient.  They are given as bytes, or as a hexadecimal text
with an even number of digits after an optional marker; they are shown as a marked lower-case text.

Main definitions:

* `PlainTx.CallData.read` — the call data an untyped value is;
* `PlainTx.CallData.text` — call data as a text.
-/

import PlainTx.Fault

set_option relaxedAutoImplicit false
set_option autoImplicit false

namespace PlainTx.CallData

/-- Call data as a text. -/
def text (data : Bytes) : String := Hex.text data

/-- The call data an untyped value is. -/
def read [Stack] (title : String) : Value → Except Fault Bytes
  | .none => .error (.missing title)
  | .bytes b => .ok b
  | .text s =>
    match Hex.scan s.toList with
    | none => .error (.ofFlaw title (.text s) .notHex)
    | some (_, ds) =>
      if ds.length % 2 = 1 then .error (.ofFlaw title (.text s) .oddDigits)
      else .ok (Hex.toBytes ds)
  | x => .error (.ofFlaw title x .notHex)

end PlainTx.CallData
