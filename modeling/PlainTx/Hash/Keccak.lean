/-
**Keccak-256.**

The sponge over the Keccak permutation of 1600 bits, with a rate of 136 bytes, the padding that
starts with a single one bit, and an output of 32 bytes.

The state is a square of five by five lanes of 64 bits.  The lane in column `x` and row `y` is at
position `x + 5 * y`, and both coordinates are taken modulo five.

Main definitions:

* `PlainTx.Keccak.permute` — the permutation;
* `PlainTx.Keccak.pad` — the padding;
* `PlainTx.keccak256` — the hash of a byte string.
-/

import PlainTx.Bytes

set_option relaxedAutoImplicit false
set_option autoImplicit false

namespace PlainTx

namespace Keccak

/-- The state: five by five lanes. -/
abbrev State := Vector UInt64 25

/-- The lane in a column and a row. -/
def lane (a : State) (x y : Nat) : UInt64 := a.get ⟨x % 5 + 5 * (y % 5), by omega⟩

/-- The state with the given lane in each column and row. -/
def ofLanes (f : (x y : Nat) → UInt64) : State := Vector.ofFn fun i => f (i.val % 5) (i.val / 5)

/-- The word with its bits moved `n` places to the left, those that leave coming in on the
right. -/
def rotate (w : UInt64) (n : Nat) : UInt64 :=
  if n % 64 = 0 then w else (w <<< n.toUInt64) ||| (w >>> (64 - n % 64).toUInt64)

/-! ### The steps of a round -/

/-- Each bit takes in the parities of two neighbouring columns. -/
def theta (a : State) : State :=
  let parity : Vector UInt64 5 := Vector.ofFn fun x =>
    lane a x.val 0 ^^^ lane a x.val 1 ^^^ lane a x.val 2 ^^^ lane a x.val 3 ^^^ lane a x.val 4
  let column (x : Nat) : UInt64 := parity.get ⟨x % 5, Nat.mod_lt _ (by decide)⟩
  ofLanes fun x y => lane a x y ^^^ column (x + 4) ^^^ rotate (column (x + 1)) 1

/-- How far each lane is rotated. -/
def rotations : Vector Nat 25 :=
  #v[0, 1, 62, 28, 27, 36, 44, 6, 55, 20, 3, 10, 43, 25, 39, 41, 45, 15, 21, 8, 18, 2, 61, 56, 14]

/-- The lanes are rotated and trade places. -/
def rhoPi (a : State) : State :=
  ofLanes fun x y =>
    let source := x + 3 * y
    rotate (lane a source x) (rotations.get ⟨source % 5 + 5 * (x % 5), by omega⟩)

/-- Each bit is flipped where the next one in its row is clear and the one behind that is set. -/
def chi (a : State) : State :=
  ofLanes fun x y => lane a x y ^^^ (~~~(lane a (x + 1) y) &&& lane a (x + 2) y)

/-- The first lane takes in the constant of the round. -/
def iota (constant : UInt64) (a : State) : State := a.set 0 (lane a 0 0 ^^^ constant)

/-- The constants of the rounds. -/
def roundConstants : List UInt64 :=
  [0x0000000000000001, 0x0000000000008082, 0x800000000000808A, 0x8000000080008000,
    0x000000000000808B, 0x0000000080000001, 0x8000000080008081, 0x8000000000008009,
    0x000000000000008A, 0x0000000000000088, 0x0000000080008009, 0x000000008000000A,
    0x000000008000808B, 0x800000000000008B, 0x8000000000008089, 0x8000000000008003,
    0x8000000000008002, 0x8000000000000080, 0x000000000000800A, 0x800000008000000A,
    0x8000000080008081, 0x8000000000008080, 0x0000000080000001, 0x8000000080008008]

/-- The permutation: one round for each constant. -/
def permute (a : State) : State :=
  roundConstants.foldl (fun a constant => iota constant (chi (rhoPi (theta a)))) a

/-! ### The sponge -/

/-- The number of bytes taken in at a time. -/
def rate : Nat := 136

/-- The message followed by a byte with the first bit set, zero bytes, and a byte with the last bit
set, up to a multiple of the rate; where one byte is missing, it has both bits. -/
def pad (message : Bytes) : Bytes :=
  let missing := rate - message.length % rate
  if missing = 1 then message ++ [0x81]
  else message ++ 0x01 :: List.replicate (missing - 2) 0x00 ++ [0x80]

/-- The word of eight bytes, least significant byte first. -/
def wordOfBytes (b : Bytes) : UInt64 := b.foldr (fun x w => (w <<< 8) ||| x.toUInt64) 0

/-- The eight bytes of a word, least significant byte first. -/
def bytesOfWord (w : UInt64) : Bytes :=
  (List.range 8).map fun i => (w >>> (8 * i).toUInt64).toUInt8

/-- The state after taking in one block. -/
def absorb (a : State) (block : Bytes) : State :=
  permute (Vector.ofFn fun i =>
    a.get i ^^^ (if i.val < rate / 8 then wordOfBytes ((block.drop (8 * i.val)).take 8) else 0))

/-- The state after taking in a number of blocks. -/
def absorbBlocks : (count : Nat) → Bytes → State → State
  | 0, _, a => a
  | count + 1, input, a => absorbBlocks count (input.drop rate) (absorb a (input.take rate))

end Keccak

/-- The Keccak-256 hash of a byte string. -/
def keccak256 (message : Bytes) : Bytes :=
  let input := Keccak.pad message
  let state := Keccak.absorbBlocks (input.length / Keccak.rate) input (Vector.replicate 25 0)
  (state.toList.take 4).flatMap Keccak.bytesOfWord

end PlainTx
