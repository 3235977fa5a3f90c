/-
**Accounts.**

An account is named by the last twenty bytes of the hash of its public key.  Its address is written
with a checksum in the case of the letters: a letter is a capital where the digit at the same place
in the hash of the lower-case address is eight or more.

Main definitions:

* `PlainTx.Account.checksummed` — twenty bytes as an address with a checksum;
* `PlainTx.Account.ofPublicKey` — the address of a public key.
-/

import PlainTx.Hash.Keccak
import PlainTx.Hex.Text

set_option relaxedAutoImplicit false
set_option autoImplicit false

namespace PlainTx.Account

/-- The bytes of an address as a text with a checksum. -/
def checksummed (b : Bytes) : String :=
  let digits := Hex.chars (Hex.ofBytes b)
  let hash := Hex.ofBytes (keccak256 (digits.map fun c => UInt8.ofNat c.toNat))
  let cased := (digits.zip hash).map fun (c, h) => if 8 ≤ h.value then c.toUpper else c
  String.ofList (Hex.Marker.lower.chars ++ cased)

/-- The address of the account of a public key. -/
def ofPublicKey (key : Nat × Nat) : String :=
  checksummed ((keccak256 (Bytes.ofNatWidth 32 key.1 ++ Bytes.ofNatWidth 32 key.2)).drop 12)

end PlainTx.Account
