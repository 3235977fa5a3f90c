/-
**Signatures from untyped values.**

A signature is made of three components, each of which is bytes, a hexadecimal text, or an integer
that is not negative; whatever the form, the component is stored as minimal bytes.  Where a
signature is expected, a list or a tuple of three components will do.

Main definitions:

* `PlainTx.Signature.ofComponents` — the signature of three components;
* `PlainTx.Signature.read` — the signature an untyped value is;
* `PlainTx.Signature.readAll` — the signatures an untyped value holds.
-/

import PlainTx.Check
import PlainTx.Value.Number
import PlainTx.Value.Parts

set_option relaxedAutoImplicit false
set_option autoImplicit false

namespace PlainTx

/-- What a component of a signature has to be. -/
def Check.component [Stack] (title : String) (x : Value) : Except Fault Unit :=
  match x with
  | .text _ => Check.hexText title x
  | .bytes _ => .ok ()
  | x => Check.unsigned title x

namespace Signature

variable [Stack]

/-- The bytes of a component. -/
def component (title : String) (x : Value) : Except Fault Bytes := do
  Check.component title x
  x.minimalBytes

/-- The signature of three components; the leftmost one that is none is reported. -/
def ofComponents (v r s : Value) : Except Fault Signature := do
  let v ← component "v" v
  let r ← component "r" r
  let s ← component "s" s
  return ⟨v, r, s⟩

/-- The signature an untyped value is: one that is given as such, or three components. -/
def read : Value → Except Fault Signature
  | .signature sig => .ok sig
  | .list [v, r, s] => ofComponents v r s
  | .tuple [v, r, s] => ofComponents v r s
  | x => .error (.ofFlaw "signatures" x .notSignature)

/-- The signatures an untyped value holds: the one it is, or all that are its parts. -/
def readAll : Value → Except Fault (List Signature)
  | .signature sig => .ok [sig]
  | x => do (← x.parts).mapM read

end Signature

end PlainTx
