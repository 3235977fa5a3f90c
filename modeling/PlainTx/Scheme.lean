/-
**Signing schemes.**

How signatures are made and checked is given by a scheme: with a key, it turns a message into the
parity and the two scalars of a signature, and from these and the message it recovers the address
of the signer.  The rules for transactions use nothing else of a curve.

Main definitions:

* `PlainTx.Scheme` — a scheme, for a type of keys;
* `PlainTx.Scheme.Lawful` — a signature leads back to the address of the key that made it;
* `PlainTx.Scheme.secp256k1` — the scheme on the curve secp256k1.
-/

import PlainTx.Curve.Account
import PlainTx.Curve.Ecdsa

set_option relaxedAutoImplicit false
set_option autoImplicit false

namespace PlainTx

/-- A way to make and to check signatures. -/
structure Scheme (Key : Type) where
  /-- The parity and the two scalars of the signature of a message. -/
  sign : Key → Bytes → Nat × Nat × Nat
  /-- The address of the signer of a message, from the parity and the two scalars. -/
  recover : (parity r s : Nat) → Bytes → Except Ecdsa.Rejection String
  /-- The address of a key. -/
  address : Key → String

/-- A signature has a parity below two, and leads back to the address of the key that made it. -/
def Scheme.Lawful {Key : Type} (scheme : Scheme Key) : Prop :=
  ∀ key message, (scheme.sign key message).1 < 2 ∧
    scheme.recover (scheme.sign key message).1 (scheme.sign key message).2.1
      (scheme.sign key message).2.2 message = .ok (scheme.address key)

/-- The scheme on the curve secp256k1. -/
def Scheme.secp256k1 : Scheme PrivateKey where
  sign := Ecdsa.sign
  recover parity r s message := (Ecdsa.recover parity r s message).map Account.ofPublicKey
  address key :=
    Account.ofPublicKey <|
      (Secp256k1.toAffine? (Secp256k1.multiply key.secret Secp256k1.generator)).getD (0, 0)

end PlainTx
