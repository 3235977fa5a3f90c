/-
**Signatures.**

A signature has a recovery id `v` and two curve scalars `r` and `s`, each held as big-endian bytes.
The signature whose numbers are `(1, 0, 0)` is a placeholder: it stands where no real signature has
been made yet.

Main definitions:

* `PlainTx.Signature` — a signature, and `PlainTx.Signature.numbers`, its three numbers;
* `PlainTx.Signature.ofNumbers` — the signature with minimal components;
* `PlainTx.Signature.isPlaceholder` — whether the numbers are those of the placeholder;
* `PlainTx.Policy` — what may be done with a placeholder.

Main results:

* `PlainTx.Signature.numbers_ofNumbers` — the signature made of three numbers has them.
-/

import PlainTx.Bytes

set_option relaxedAutoImplicit false
set_option autoImplicit false

namespace PlainTx

/-- A signature: the recovery id and the two scalars, as big-endian bytes. -/
structure Signature where
  v : Bytes
  r : Bytes
  s : Bytes
deriving DecidableEq

namespace Signature

/-- The three numbers of a signature. -/
def numbers (sig : Signature) : Nat × Nat × Nat := (sig.v.toNat, sig.r.toNat, sig.s.toNat)

/-- The signature of three numbers, with minimal components. -/
def ofNumbers (v r s : Nat) : Signature := ⟨Bytes.ofNat v, Bytes.ofNat r, Bytes.ofNat s⟩

@[simp] theorem numbers_ofNumbers (v r s : Nat) : (ofNumbers v r s).numbers = (v, r, s) := by
  simp only [numbers, ofNumbers, Bytes.toNat_ofNat]

/-- The placeholder for a signature that has not been made yet. -/
def placeholder : Signature := ofNumbers 1 0 0

/-- Whether the numbers of a signature are those of the placeholder, however they are spelled. -/
def isPlaceholder (sig : Signature) : Bool := sig.numbers == (1, 0, 0)

/-- No component starts with a zero byte. -/
def Minimal (sig : Signature) : Prop :=
  Bytes.Minimal sig.v ∧ Bytes.Minimal sig.r ∧ Bytes.Minimal sig.s

instance (sig : Signature) : Decidable sig.Minimal := inferInstanceAs (Decidable (_ ∧ _))

theorem minimal_ofNumbers (v r s : Nat) : (ofNumbers v r s).Minimal :=
  ⟨Bytes.minimal_ofNat v, Bytes.minimal_ofNat r, Bytes.minimal_ofNat s⟩

end Signature

/-- Whether a placeholder may be replaced by a signature, or is kept like any other. -/
inductive Policy where
  | replaceEmpty
  | reject
deriving DecidableEq

namespace Policy

/-- The name a policy goes by in settings. -/
def text : Policy → String
  | .replaceEmpty => "replace-empty"
  | .reject => "reject"

/-- The name of a policy as a constant. -/
def label : Policy → String
  | .replaceEmpty => "REPLACE_EMPTY"
  | .reject => "REJECT"

/-- All policies, in the order they are tried. -/
def all : List Policy := [.replaceEmpty, .reject]

/-- The policy with the given name. -/
def ofText? (s : String) : Option Policy := all.find? (·.text == s)

/-- Whether the policy lets a held signature be replaced. -/
def allowsReplacing (p : Policy) (held : Signature) : Bool :=
  p == .replaceEmpty && held.isPlaceholder

end Policy

end PlainTx
