/-
**Quantities.**

A quantity is a natural number kept the way it was spelled: a marker, and hexadecimal digits in
either case, with any number of zeros in front, or with no digits at all for zero.  A quantity is
given by a number, or by a text with or without a marker; a text without one gets the lower-case
marker.

Main definitions:

* `PlainTx.Quantity` — a quantity; `PlainTx.Quantity.text` and `PlainTx.Quantity.toNat` — its text
  and its number;
* `PlainTx.Quantity.ofNat`, `PlainTx.Quantity.ofText?` — the quantity of a number, and of a text;
* `PlainTx.Quantity.read`, `PlainTx.Quantity.readOptional` — the quantity an untyped value is.

Main results:

* `PlainTx.Quantity.toNat_ofNat` — the quantity of a number denotes it;
* `PlainTx.Quantity.ofText?_text` — reading the text of a quantity gives the quantity back.
-/

import PlainTx.Fault

set_option relaxedAutoImplicit false
set_option autoImplicit false

namespace PlainTx

/-- A natural number as a marked text. -/
structure Quantity where
  marker : Hex.Marker
  digits : List Hex.Digit
deriving DecidableEq

namespace Quantity

/-- The text of a quantity. -/
def text (q : Quantity) : String := String.ofList (q.marker.chars ++ Hex.chars q.digits)

/-- The number a quantity denotes. -/
def toNat (q : Quantity) : Nat := Hex.toNat q.digits

/-- The quantity of a number: lower case, with no zero in front. -/
def ofNat (n : Nat) : Quantity := ⟨.lower, Hex.digitsOf n⟩

@[simp] theorem toNat_ofNat (n : Nat) : (ofNat n).toNat = n := Hex.toNat_digitsOf n

/-- The quantity of a hexadecimal text. -/
def ofText? (s : String) : Option Quantity :=
  (Hex.scan s.toList).map fun (m, ds) => ⟨m.getD .lower, ds⟩

theorem ofText?_text (q : Quantity) : ofText? q.text = some q := by
  obtain ⟨m, ds⟩ := q
  cases m <;>
    simp [ofText?, text, Hex.scan, Hex.Marker.chars, Hex.splitMarker]

/-- The quantity as an untyped value. -/
def value (q : Quantity) : Value := .text q.text

/-- The quantity an untyped value is. -/
def read [Stack] (title : String) : Value → Except Fault Quantity
  | .none => .error (.missing title)
  | .text s =>
    match ofText? s with
    | some q => .ok q
    | none => .error (.ofFlaw title (.text s) .notHex)
  | .int (.ofNat n) => .ok (ofNat n)
  | .int z => .error (.ofFlaw title (.int z) .negative)
  | x => .error (.ofFlaw title x .notInteger)

/-- The quantity an untyped value is, if it is given. -/
def readOptional [Stack] (title : String) : Value → Except Fault (Option Quantity)
  | .none => .ok none
  | x => (read title x).map some

/-- A quantity that may be unset, as an untyped value. -/
def optionalValue : Option Quantity → Value
  | some q => q.value
  | none => .none

end Quantity

end PlainTx
