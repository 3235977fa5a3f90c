/-
**Addresses.**

An address is twenty bytes kept the way they were spelled: a marker, and forty hexadecimal digits
in either case.  The text that is a marker alone is the *empty address* of a recipient that has not
been set yet.

Main definitions:

* `PlainTx.Address` — an address; `PlainTx.Address.text` and `PlainTx.Address.toBytes` — its text
  and its bytes;
* `PlainTx.Address.ofText?`, `PlainTx.Address.ofBytes?` — the address of a text, and of bytes;
* `PlainTx.Address.read` — the address an untyped value is, or none for the empty address.

Main results:

* `PlainTx.Address.ofText?_text` — reading the text of an address gives the address back.
-/

import PlainTx.Fault

set_option relaxedAutoImplicit false
set_option autoImplicit false

namespace PlainTx

/-- Twenty bytes as a marked text. -/
structure Address where
  marker : Hex.Marker
  digits : List Hex.Digit
  length_digits : digits.length = 2 * Format.addressSize
deriving DecidableEq

namespace Address

/-- The text of an address. -/
def text (a : Address) : String := String.ofList (a.marker.chars ++ Hex.chars a.digits)

/-- The bytes of an address. -/
def toBytes (a : Address) : Bytes := Hex.toBytes a.digits

/-- The address of a text: forty digits after an optional marker. -/
def ofText? (s : String) : Option Address :=
  match Hex.scan s.toList with
  | some (m, ds) =>
    if h : ds.length = 2 * Format.addressSize then some ⟨m.getD .lower, ds, h⟩ else none
  | none => none

theorem ofText?_text (a : Address) : ofText? a.text = some a := by
  obtain ⟨m, ds, h⟩ := a
  cases m <;>
    simp [ofText?, text, Hex.scan, Hex.Marker.chars, Hex.splitMarker, h]

/-- The address of twenty bytes. -/
def ofBytes? (b : Bytes) : Option Address :=
  if h : b.length = Format.addressSize then
    some ⟨.lower, Hex.ofBytes b, by rw [Hex.length_ofBytes, h]⟩
  else none

/-- The address an untyped value is; the empty address is none. -/
def read [Stack] (title : String) : Value → Except Fault (Option Address)
  | .none => .error (.missing title)
  | .bytes b =>
    if b = [] then .ok none
    else match ofBytes? b with
      | some a => .ok (some a)
      | none => .error (.ofFlaw title (.bytes b) .notCanonicalAddress)
  | .text s =>
    if s = Format.emptyAddress then .ok none
    else match ofText? s with
      | some a => .ok (some a)
      | none => .error (.ofFlaw title (.text s) .notAddress)
  | x => .error (.ofFlaw title x .notAddress)

/-- The text of an address that may be empty. -/
def optionalText : Option Address → String
  | some a => a.text
  | none => Format.emptyAddress

/-- Whether two addresses are the same apart from the case of their letters. -/
def agrees (a b : Address) : Bool :=
  a.digits.map Hex.Digit.lowerCase == b.digits.map Hex.Digit.lowerCase

end Address

end PlainTx
