/-
**The curve secp256k1.**

The points of `y² = x³ + 7` over the field of `p` elements, in projective coordinates: the triple
`(x, y, z)` with `z ≠ 0` stands for the point `(x / z², y / z³)`, and every triple with `z = 0` for
the point at infinity.  Sums and multiples then need no division.

Main definitions:

* `PlainTx.Secp256k1.Point` — a point in projective coordinates;
* `PlainTx.Secp256k1.double`, `PlainTx.Secp256k1.add`, `PlainTx.Secp256k1.multiply` — the group
  operations;
* `PlainTx.Secp256k1.toAffine?` — the two coordinates of a point other than infinity;
* `PlainTx.Secp256k1.lift?` — the point with a given first coordinate and parity of the second.
-/

set_option relaxedAutoImplicit false
set_option autoImplicit false

namespace PlainTx.Secp256k1

/-! ### Arithmetic modulo a number -/

/-- The power `base ^ exponent` modulo `modulus`, by repeated squaring. -/
def powMod (modulus base exponent : Nat) : Nat :=
  if exponent = 0 then 1 % modulus
  else
    let half := powMod modulus (base * base % modulus) (exponent / 2)
    if exponent % 2 = 1 then base * half % modulus else half
termination_by exponent

/-- The inverse of a number modulo a prime. -/
def inverse (prime n : Nat) : Nat := powMod prime n (prime - 2)

/-- The number of elements of the field. -/
def p : Nat := 0xFFFFFFFFFFFFFFFFFFFFFFFFFFFFFFFFFFFFFFFFFFFFFFFFFFFFFFFEFFFFFC2F

/-- The number of points of the curve. -/
def order : Nat := 0xFFFFFFFFFFFFFFFFFFFFFFFFFFFFFFFEBAAEDCE6AF48A03BBFD25E8CD0364141

/-- The difference of two field elements. -/
def sub (a b : Nat) : Nat := (a + (p - b % p)) % p

/-! ### Points -/

/-- A point in projective coordinates. -/
structure Point where
  x : Nat
  y : Nat
  z : Nat
deriving DecidableEq

/-- The point at infinity. -/
def infinity : Point := ⟨1, 1, 0⟩

/-- The chosen generator of the group. -/
def generator : Point :=
  ⟨0x79BE667EF9DCBBAC55A06295CE870B07029BFCDB2DCE28D959F2815B16F81798,
    0x483ADA7726A3C4655DA4FBFC0E1108A8FD17B448A68554199C47D08FFB10D4B8, 1⟩

/-- The sum of a point with itself. -/
def double (a : Point) : Point :=
  let ySquare := a.y * a.y % p
  let s := 4 * a.x * ySquare % p
  let m := 3 * a.x * a.x % p
  let x := sub (m * m) (2 * s)
  let y := sub (m * sub s x) (8 * ySquare * ySquare)
  ⟨x, y, 2 * a.y * a.z % p⟩

/-- The sum of two points. -/
def add (a b : Point) : Point :=
  if a.z = 0 then b
  else if b.z = 0 then a
  else
    let aSquare := a.z * a.z % p
    let bSquare := b.z * b.z % p
    let u₁ := a.x * bSquare % p
    let u₂ := b.x * aSquare % p
    let s₁ := a.y * bSquare * b.z % p
    let s₂ := b.y * aSquare * a.z % p
    if u₁ = u₂ then if s₁ = s₂ then double a else infinity
    else
      let h := sub u₂ u₁
      let r := sub s₂ s₁
      let hSquare := h * h % p
      let hCube := h * hSquare % p
      let w := u₁ * hSquare % p
      let x := sub (r * r) (hCube + 2 * w)
      let y := sub (r * sub w x) (s₁ * hCube)
      ⟨x, y, h * a.z * b.z % p⟩

/-- The sum of `n` copies of a point. -/
def multiply (n : Nat) (a : Point) : Point :=
  if n = 0 then infinity
  else
    let half := multiply (n / 2) a
    let even := double half
    if n % 2 = 1 then add even a else even
termination_by n

/-- The two coordinates of a point; infinity has none. -/
def toAffine? (a : Point) : Option (Nat × Nat) :=
  if a.z % p = 0 then none
  else
    let zInverse := inverse p a.z
    let square := zInverse * zInverse % p
    some (a.x * square % p, a.y * (square * zInverse % p) % p)

/-- The point with the given first coordinate whose second one is odd or even, if there is one.
The field has a square root of every square among the powers, because `p` is 3 modulo 4. -/
def lift? (x : Nat) (odd : Bool) : Option Point :=
  let square := (x * x * x + 7) % p
  let root := powMod p square ((p + 1) / 4)
  if root * root % p ≠ square then none
  else some ⟨x % p, if (root % 2 == 1) == odd then root else p - root, 1⟩

end PlainTx.Secp256k1
