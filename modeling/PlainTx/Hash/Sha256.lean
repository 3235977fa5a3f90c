/-
**SHA-256 and its keyed form.**

The hash of the standard, over a state of eight words of 32 bits and blocks of 64 bytes, and the
keyed hash built from it (HMAC).

Main definitions:

* `PlainTx.sha256` — the hash of a byte string;
* `PlainTx.hmacSha256` — the keyed hash of a byte string.
-/

import PlainTx.Bytes

set_option relaxedAutoImplicit false
set_option autoImplicit false

namespace PlainTx

namespace Sha256

/-! ### Words -/

/-- The word with its bits moved `n` places to the right, those that leave coming in on the
left. -/
def rotate (w : UInt32) (n : UInt32) : UInt32 := (w >>> n) ||| (w <<< (32 - n))

/-- The mixing of a word in the schedule, between words fifteen and sixteen places apart. -/
def smallSigma0 (w : UInt32) : UInt32 := rotate w 7 ^^^ rotate w 18 ^^^ (w >>> 3)

/-- The mixing of a word in the schedule, between words two and sixteen places apart. -/
def smallSigma1 (w : UInt32) : UInt32 := rotate w 17 ^^^ rotate w 19 ^^^ (w >>> 10)

/-- The mixing of the first word of the state. -/
def bigSigma0 (w : UInt32) : UInt32 := rotate w 2 ^^^ rotate w 13 ^^^ rotate w 22

/-- The mixing of the fifth word of the state. -/
def bigSigma1 (w : UInt32) : UInt32 := rotate w 6 ^^^ rotate w 11 ^^^ rotate w 25

/-- The bits of `y` where `x` is set, and those of `z` elsewhere. -/
def choose (x y z : UInt32) : UInt32 := (x &&& y) ^^^ (~~~x &&& z)

/-- The bits that at least two of the three words have. -/
def majority (x y z : UInt32) : UInt32 := (x &&& y) ^^^ (x &&& z) ^^^ (y &&& z)

/-! ### Rounds -/

/-- The constants of the rounds. -/
def roundConstants : List UInt32 :=
  [0x428a2f98, 0x71374491, 0xb5c0fbcf, 0xe9b5dba5, 0x3956c25b, 0x59f111f1, 0x923f82a4, 0xab1c5ed5,
    0xd807aa98, 0x12835b01, 0x243185be, 0x550c7dc3, 0x72be5d74, 0x80deb1fe, 0x9bdc06a7, 0xc19bf174,
    0xe49b69c1, 0xefbe4786, 0x0fc19dc6, 0x240ca1cc, 0x2de92c6f, 0x4a7484aa, 0x5cb0a9dc, 0x76f988da,
    0x983e5152, 0xa831c66d, 0xb00327c8, 0xbf597fc7, 0xc6e00bf3, 0xd5a79147, 0x06ca6351, 0x14292967,
    0x27b70a85, 0x2e1b2138, 0x4d2c6dfc, 0x53380d13, 0x650a7354, 0x766a0abb, 0x81c2c92e, 0x92722c85,
    0xa2bfe8a1, 0xa81a664b, 0xc24b8b70, 0xc76c51a3, 0xd192e819, 0xd6990624, 0xf40e3585, 0x106aa070,
    0x19a4c116, 0x1e376c08, 0x2748774c, 0x34b0bcb5, 0x391c0cb3, 0x4ed8aa4a, 0x5b9cca4f, 0x682e6ff3,
    0x748f82ee, 0x78a5636f, 0x84c87814, 0x8cc70208, 0x90befffa, 0xa4506ceb, 0xbef9a3f7, 0xc67178f2]

/-- The words of the rounds from a window of sixteen words on: each further word is mixed from
four of the last sixteen. -/
def schedule : (count : Nat) → List UInt32 → List UInt32
  | 0, _ => []
  | _ + 1, [] => []
  | count + 1, w :: rest =>
    let next := smallSigma1 (rest.getD 13 0) + rest.getD 8 0 + smallSigma0 (rest.getD 0 0) + w
    w :: schedule count (rest ++ [next])

/-- The eight words of the state. -/
structure State where
  a : UInt32
  b : UInt32
  c : UInt32
  d : UInt32
  e : UInt32
  f : UInt32
  g : UInt32
  h : UInt32

/-- The state before the first block. -/
def initial : State :=
  ⟨0x6a09e667, 0xbb67ae85, 0x3c6ef372, 0xa54ff53a, 0x510e527f, 0x9b05688c, 0x1f83d9ab, 0x5be0cd19⟩

/-- One round, with its constant and its word. -/
def round (s : State) (input : UInt32 × UInt32) : State :=
  let t₁ := s.h + bigSigma1 s.e + choose s.e s.f s.g + input.1 + input.2
  let t₂ := bigSigma0 s.a + majority s.a s.b s.c
  ⟨t₁ + t₂, s.a, s.b, s.c, s.d + t₁, s.e, s.f, s.g⟩

/-- The words added place by place. -/
def State.add (s t : State) : State :=
  ⟨s.a + t.a, s.b + t.b, s.c + t.c, s.d + t.d, s.e + t.e, s.f + t.f, s.g + t.g, s.h + t.h⟩

/-- The words of the state, in order. -/
def State.words (s : State) : List UInt32 := [s.a, s.b, s.c, s.d, s.e, s.f, s.g, s.h]

/-! ### Blocks -/

/-- The message followed by a set bit, zero bits, and its length in bits as eight bytes, up to a
multiple of 64 bytes. -/
def pad (message : Bytes) : Bytes :=
  let zeros := (119 - message.length % 64) % 64
  message ++ 0x80 :: List.replicate zeros 0x00 ++ Bytes.ofNatWidth 8 (8 * message.length)

/-- The words of some bytes, most significant byte first. -/
def wordsOfBytes : Bytes → List UInt32
  | x :: y :: z :: w :: rest => (Bytes.toNat [x, y, z, w]).toUInt32 :: wordsOfBytes rest
  | _ => []

/-- The state after taking in one block. -/
def absorb (s : State) (block : Bytes) : State :=
  let words := schedule 64 (wordsOfBytes block)
  s.add ((roundConstants.zip words).foldl round s)

/-- The state after taking in a number of blocks. -/
def absorbBlocks : (count : Nat) → Bytes → State → State
  | 0, _, s => s
  | count + 1, input, s => absorbBlocks count (input.drop 64) (absorb s (input.take 64))

end Sha256

/-- The SHA-256 hash of a byte string. -/
def sha256 (message : Bytes) : Bytes :=
  let input := Sha256.pad message
  let state := Sha256.absorbBlocks (input.length / 64) input Sha256.initial
  state.words.flatMap fun w => Bytes.ofNatWidth 4 w.toNat

/-- The keyed hash of a byte string, for keys of at most 64 bytes. -/
def hmacSha256 (key message : Bytes) : Bytes :=
  let block := key ++ List.replicate (64 - key.length) 0x00
  sha256 (block.map (· ^^^ 0x5c) ++ sha256 (block.map (· ^^^ 0x36) ++ message))

end PlainTx
