/-
**Payloads.**

What is written on the wire: a list of the six fields of a transaction, in a fixed order.  There
are three layouts.  The *unsigned* layout has nothing else; it is the message of the older signing
scheme.  The *signing* layout adds the chain id and two numbers that are zero in every message; it
is the message of the scheme that commits to a chain.  The *signed* layout adds the three numbers
of a signature; it is the form in which a transaction travels.

Main definitions:

* `PlainTx.Payload.Body` — the six fields;
* `PlainTx.Payload` — a payload in one of the three layouts;
* `PlainTx.Payload.items`, `PlainTx.Payload.encode` — its items and its encoding;
* `PlainTx.Payload.fits` — whether it is short enough to be written.
-/

import PlainTx.Rlp.Item

set_option relaxedAutoImplicit false
set_option autoImplicit false

namespace PlainTx

/-- The six fields of a transaction, in the order in which they are written. -/
structure Payload.Body where
  nonce : Nat
  gasPrice : Nat
  gas : Nat
  recipient : Bytes
  value : Nat
  data : Bytes
deriving DecidableEq

/-- A payload in one of the three layouts. -/
inductive Payload where
  | unsigned (body : Payload.Body)
  | signing (body : Payload.Body) (chainId rMark sMark : Nat)
  | signed (body : Payload.Body) (v r s : Nat)
deriving DecidableEq

namespace Payload

/-- The layouts. -/
inductive Layout where
  | unsigned
  | signing
  | signed
deriving DecidableEq

/-- The names of the fields of the body. -/
def bodyNames : List String := ["nonce", "gas_price", "gas", "to", "value", "data"]

/-- The names of the fields behind the body. -/
def Layout.tailNames : Layout → List String
  | .unsigned => []
  | .signing => ["chain_id", "r_placeholder", "s_placeholder"]
  | .signed => ["v", "r", "s"]

/-- The names of all fields, in the order in which they are written. -/
def Layout.names (l : Layout) : List String := bodyNames ++ l.tailNames

/-- The item of a number. -/
def numberItem (n : Nat) : Rlp.Item := .bytes (Bytes.ofNat n)

/-- The items of the body. -/
def Body.items (b : Body) : List Rlp.Item :=
  [numberItem b.nonce, numberItem b.gasPrice, numberItem b.gas, .bytes b.recipient,
    numberItem b.value, .bytes b.data]

/-- The items of a payload. -/
def items : Payload → List Rlp.Item
  | .unsigned body => body.items
  | .signing body chainId rMark sMark =>
    body.items ++ [numberItem chainId, numberItem rMark, numberItem sMark]
  | .signed body v r s => body.items ++ [numberItem v, numberItem r, numberItem s]

/-- The encoding of a payload. -/
def encode (p : Payload) : Bytes := Rlp.encode (.list p.items)

/-- Whether a payload is short enough to be written. -/
def fits (p : Payload) : Bool := Rlp.fits (.list p.items)

end Payload

end PlainTx
