/-
**Signatures on the curve.**

A message is hashed to a number, and a key signs that number.  The nonce is derived from the key
and the hash, so that a key signs a message always in the same way.  The second scalar is made low;
the parity of the nonce point is returned with the scalars, and lets the public key be recovered
from the signature and the message.

Main definitions:

* `PlainTx.PrivateKey` — a private key;
* `PlainTx.Ecdsa.sign` — the parity and the two scalars of a signature;
* `PlainTx.Ecdsa.Rejection`, `PlainTx.Ecdsa.recover` — the public key behind a signature, or why
  there is none.
-/

import PlainTx.Hash.Keccak
import PlainTx.Hash.Sha256
import PlainTx.Curve.Secp256k1

set_option relaxedAutoImplicit false
set_option autoImplicit false

namespace PlainTx

/-- A private key: a number from one to the order of the group less one. -/
structure PrivateKey where
  secret : Nat
  pos : 0 < secret
  lt_order : secret < Secp256k1.order

/-- The private key of 32 bytes, if they spell one. -/
def PrivateKey.ofBytes? (b : Bytes) : Option PrivateKey :=
  if b.length = 32 then
    if h : 0 < b.toNat ∧ b.toNat < Secp256k1.order then some ⟨b.toNat, h.1, h.2⟩ else none
  else none

namespace Ecdsa

open Secp256k1

/-! ### Signing -/

/-- The nonce of a key and a hash. -/
def nonce (secret hash : Nat) : Nat :=
  let input := Bytes.ofNatWidth 32 secret ++ Bytes.ofNatWidth 32 (hash % order)
  let k₀ := List.replicate 32 (0x00 : UInt8)
  let v₀ := List.replicate 32 (0x01 : UInt8)
  let k₁ := hmacSha256 k₀ (v₀ ++ 0x00 :: input)
  let v₁ := hmacSha256 k₁ v₀
  let k₂ := hmacSha256 k₁ (v₁ ++ 0x01 :: input)
  let v₂ := hmacSha256 k₂ v₁
  (hmacSha256 k₂ v₂).toNat

/-- The parity of the nonce point and the two scalars of the signature of a hash. -/
def signHash (key : PrivateKey) (hash : Nat) : Nat × Nat × Nat :=
  let k := nonce key.secret hash
  let (x, y) := (toAffine? (multiply k generator)).getD (0, 0)
  let s := inverse order k * (hash + x * key.secret) % order
  if 2 * s < order then (y % 2, x, s) else (1 - y % 2, x, order - s)

/-- The parity of the nonce point and the two scalars of the signature of a message. -/
def sign (key : PrivateKey) (message : Bytes) : Nat × Nat × Nat :=
  signHash key (keccak256 message).toNat

/-! ### Recovery -/

/-- Why no public key can be recovered. -/
inductive Rejection where
  /-- A scalar is not below the order. -/
  | scalarTooLarge (scalar : Nat)
  /-- The first scalar is not the first coordinate of a point, or a scalar is zero. -/
  | noPoint
  /-- The recovered point is infinity. -/
  | infinity
deriving DecidableEq

/-- The wording of a rejection. -/
def Rejection.message : Rejection → String
  | .scalarTooLarge scalar =>
    let largest := order - 1
    s!"Value {scalar} is not less than or equal to {largest}"
  | .noPoint => "Invalid signature"
  | .infinity => "InvalidSignature"

/-- The public key behind the signature of a hash.  The nonce point has `r` itself as its first
coordinate. -/
def recoverHash (parity r s hash : Nat) : Except Rejection (Nat × Nat) :=
  if order ≤ r then .error (.scalarTooLarge r)
  else if order ≤ s then .error (.scalarTooLarge s)
  else if r = 0 ∨ s = 0 then .error .noPoint
  else match lift? r (parity % 2 == 1) with
    | none => .error .noPoint
    | some noncePoint =>
      let minusHash := (order - hash % order) % order
      let sum := add (multiply minusHash generator) (multiply s noncePoint)
      match toAffine? (multiply (inverse order r) sum) with
      | none => .error .infinity
      | some key => .ok key

/-- The public key behind the signature of a message. -/
def recover (parity r s : Nat) (message : Bytes) : Except Rejection (Nat × Nat) :=
  recoverHash parity r s (keccak256 message).toNat

end Ecdsa

end PlainTx
