/-
**Constants of the format.**

The names and numbers that the rules for transactions are written with.

Main definitions:

* `PlainTx.Format.addressSize` — the number of bytes of an address;
* `PlainTx.Format.plainOffset`, `PlainTx.Format.chainOffset` — where the recovery ids of the two
  signing schemes start;
* `PlainTx.Format.constants` — all constants with their public names.
-/

import PlainTx.Value

set_option relaxedAutoImplicit false
set_option autoImplicit false

namespace PlainTx.Format

/-- The name that transactions of this form go by. -/
def transactionType : String := "TxTypeLegacyTransaction"

/-- The address of a recipient that has not been set yet. -/
def emptyAddress : String := "0x"

/-- Call data that has not been set yet. -/
def emptyInput : String := "0x"

/-- The number of bytes of an address. -/
def addressSize : Nat := 20

/-- The recovery id of an even nonce point in the scheme that commits to no chain. -/
def plainOffset : Nat := 27

/-- The recovery id of an even nonce point for chain zero, in the scheme that commits to a
chain. -/
def chainOffset : Nat := 35

/-- All constants with their public names. -/
def constants : List (String × Value) :=
  let (v, r, s) := Signature.placeholder.numbers
  [("ADDRESS_SIZE", .int addressSize), ("EIP155_CHAIN_ID_OFFSET", .int chainOffset),
    ("EMPTY_ADDRESS", .text emptyAddress), ("EMPTY_INPUT", .text emptyInput),
    ("EMPTY_SIGNATURE_VRS", .tuple [.int v, .int r, .int s]),
    ("LEGACY_TRANSACTION_TYPE", .text transactionType), ("V_OFFSET", .int plainOffset)]

end PlainTx.Format
