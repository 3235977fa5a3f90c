/-
**Hexadecimal digits.**

A hexadecimal digit is a character with a value below sixteen.  The letters count in both cases,
and a digit remembers the case it was written in: texts are kept the way they were spelled.

Main definitions:

* `PlainTx.Hex.digitValue?` — the value of a character as a digit;
* `PlainTx.Hex.Digit` — a character that is a digit;
* `PlainTx.Hex.toNat`, `PlainTx.Hex.digitsOf` — the number a list of digits spells, and its
  shortest spelling.

Main results:

* `PlainTx.Hex.Digit.value_ofFin` — the digit written for a value has that value;
* `PlainTx.Hex.toNat_digitsOf` — the shortest spelling of a number spells it.
-/

import PlainTx.Text.Quoted

set_option relaxedAutoImplicit false
set_option autoImplicit false

namespace PlainTx.Hex

/-! ### Single digits -/

/-- The value of a character as a hexadecimal digit, its letter case ignored. -/
def digitValue? (c : Char) : Option Nat :=
  if 0x30 ≤ c.toNat ∧ c.toNat ≤ 0x39 then some (c.toNat - 0x30)
  else if 0x61 ≤ c.toNat ∧ c.toNat ≤ 0x66 then some (c.toNat - 0x57)
  else if 0x41 ≤ c.toNat ∧ c.toNat ≤ 0x46 then some (c.toNat - 0x37)
  else none

theorem lt_of_digitValue? {c : Char} {n : Nat} (h : digitValue? c = some n) : n < 16 := by
  unfold digitValue? at h
  split at h
  · injection h; omega
  · split at h
    · injection h; omega
    · split at h
      · injection h; omega
      · cases h

/-- A character that is a hexadecimal digit. -/
structure Digit where
  char : Char
  isHex : (digitValue? char).isSome = true
deriving DecidableEq

namespace Digit

/-- The value of a digit. -/
def value (d : Digit) : Nat := (digitValue? d.char).get d.isHex

theorem value_lt (d : Digit) : d.value < 16 :=
  lt_of_digitValue? (Option.some_get d.isHex).symm

/-- The digit a character is, if it is one. -/
def ofChar? (c : Char) : Option Digit :=
  if h : (digitValue? c).isSome = true then some ⟨c, h⟩ else none

@[simp] theorem ofChar?_char (d : Digit) : ofChar? d.char = some d := by
  simp [ofChar?, d.isHex]

theorem char_of_ofChar? {c : Char} {d : Digit} (h : ofChar? c = some d) : d.char = c := by
  unfold ofChar? at h
  split at h
  · injection h with h; rw [← h]
  · cases h

/-- The lower-case digit of a value. -/
def ofFin (n : Fin 16) : Digit :=
  ⟨Text.hexDigit n.val, by revert n; decide⟩

theorem value_ofFin (n : Fin 16) : (ofFin n).value = n.val := by
  revert n; decide

/-- The same digit in lower case. -/
def lowerCase (d : Digit) : Digit := ofFin ⟨d.value, d.value_lt⟩

@[simp] theorem value_lowerCase (d : Digit) : d.lowerCase.value = d.value := value_ofFin _

end Digit

/-! ### Numbers -/

/-- The number a list of digits spells, most significant digit first. -/
def toNat (ds : List Digit) : Nat := ds.foldl (fun n d => 16 * n + d.value) 0

@[simp] theorem toNat_nil : toNat [] = 0 := rfl

@[simp] theorem toNat_append_singleton (ds : List Digit) (d : Digit) :
    toNat (ds ++ [d]) = 16 * toNat ds + d.value := by
  simp [toNat, List.foldl_append]

/-- The lower-case digit of the last place of a number. -/
def lastDigit (n : Nat) : Digit := Digit.ofFin ⟨n % 16, Nat.mod_lt _ (by decide)⟩

/-- The shortest spelling of a number, in lower case; zero is spelled by one digit. -/
def digitsOf (n : Nat) : List Digit :=
  if n < 16 then [lastDigit n] else digitsOf (n / 16) ++ [lastDigit n]
termination_by n

theorem toNat_digitsOf (n : Nat) : toNat (digitsOf n) = n := by
  induction n using Nat.strongRecOn with
  | ind n ih =>
    rw [digitsOf]
    split
    · next h =>
      simp only [toNat, List.foldl_cons, List.foldl_nil, lastDigit, Digit.value_ofFin]
      omega
    · next h =>
      rw [toNat_append_singleton, ih (n / 16) (by omega), lastDigit, Digit.value_ofFin]
      show 16 * (n / 16) + n % 16 = n
      omega

/-! ### Bytes -/

/-- The two lower-case digits of a byte. -/
def byteDigits (x : UInt8) : List Digit := [lastDigit (x.toNat / 16), lastDigit x.toNat]

/-- The lower-case digits of a byte string, two for each byte. -/
def ofBytes (b : Bytes) : List Digit := b.flatMap byteDigits

/-- The byte two digits spell. -/
def pairByte (hi lo : Digit) : UInt8 := UInt8.ofNat (16 * hi.value + lo.value)

/-- The bytes a list of digits spells, two digits for each byte; a last single digit spells
nothing. -/
def toBytes : List Digit → Bytes
  | hi :: lo :: rest => pairByte hi lo :: toBytes rest
  | _ => []

theorem toBytes_ofBytes (b : Bytes) : toBytes (ofBytes b) = b := by
  induction b with
  | nil => rfl
  | cons x b ih =>
    have hx : pairByte (lastDigit (x.toNat / 16)) (lastDigit x.toNat) = x := by
      apply UInt8.toNat_inj.1
      have := x.toNat_lt
      simp only [pairByte, lastDigit, Digit.value_ofFin, UInt8.toNat_ofNat']
      omega
    show pairByte (lastDigit (x.toNat / 16)) (lastDigit x.toNat) :: toBytes (ofBytes b) = x :: b
    rw [hx, ih]

theorem length_ofBytes (b : Bytes) : (ofBytes b).length = 2 * b.length := by
  induction b with
  | nil => rfl
  | cons x b ih =>
    show (byteDigits x ++ ofBytes b).length = _
    simp [byteDigits, ih]; omega

end PlainTx.Hex
