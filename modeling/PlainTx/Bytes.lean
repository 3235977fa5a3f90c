/-
**Byte strings as numbers.**

A byte string is read as a number with its most significant byte first.  Every number has exactly
one *minimal* spelling, the one that does not start with a zero byte; zero is spelled by the empty
string.  Integers travel on the wire, and signature components are stored, in that form.

Main definitions:

* `PlainTx.Bytes.toNat` — the number a byte string spells;
* `PlainTx.Bytes.ofNat` — the minimal spelling of a number;
* `PlainTx.Bytes.stripZeros` — the minimal spelling of the same number as the given string;
* `PlainTx.Bytes.Minimal` — the string does not start with a zero byte.

Main results:

* `PlainTx.Bytes.toNat_ofNat` — the minimal spelling spells its number;
* `PlainTx.Bytes.minimal_ofNat` — the minimal spelling is minimal;
* `PlainTx.Bytes.minimal_stripZeros`, `PlainTx.Bytes.toNat_stripZeros` — stripping the leading
  zeros makes a string minimal and keeps its number.
-/

set_option relaxedAutoImplicit false
set_option autoImplicit false

namespace PlainTx

/-- A string of bytes. -/
abbrev Bytes := List UInt8

namespace Bytes

/-! ### Values of byte strings -/

/-- The number a byte string spells, most significant byte first. -/
def toNat (b : Bytes) : Nat := b.foldl (fun n x => 256 * n + x.toNat) 0

@[simp] theorem toNat_nil : toNat [] = 0 := rfl

@[simp] theorem toNat_append_singleton (b : Bytes) (x : UInt8) :
    toNat (b ++ [x]) = 256 * toNat b + x.toNat := by
  simp [toNat, List.foldl_append]

theorem toNat_zero_cons (b : Bytes) : toNat (0 :: b) = toNat b := by
  simp [toNat]

/-! ### Minimal spellings -/

/-- A byte string is minimal when it does not start with a zero byte. -/
def Minimal (b : Bytes) : Prop := b.head? ≠ some 0

instance (b : Bytes) : Decidable (Minimal b) := inferInstanceAs (Decidable (_ ≠ _))

/-- The minimal spelling of a number; zero has no bytes. -/
def ofNat (n : Nat) : Bytes :=
  if n = 0 then [] else ofNat (n / 256) ++ [UInt8.ofNat n]
termination_by n

@[simp] theorem ofNat_zero : ofNat 0 = [] := by rw [ofNat]; rfl

theorem ofNat_of_ne_zero {n : Nat} (h : n ≠ 0) :
    ofNat n = ofNat (n / 256) ++ [UInt8.ofNat n] := by
  rw [ofNat, if_neg h]

theorem toNat_ofNat (n : Nat) : toNat (ofNat n) = n := by
  induction n using Nat.strongRecOn with
  | ind n ih =>
    by_cases h : n = 0
    · simp [h]
    · rw [ofNat_of_ne_zero h, toNat_append_singleton, ih (n / 256) (by omega)]
      simp only [UInt8.toNat_ofNat']
      omega

theorem ofNat_eq_nil_iff {n : Nat} : ofNat n = [] ↔ n = 0 := by
  by_cases h : n = 0
  · simp [h]
  · simp [ofNat_of_ne_zero h, h]

theorem minimal_ofNat (n : Nat) : Minimal (ofNat n) := by
  induction n using Nat.strongRecOn with
  | ind n ih =>
    by_cases h : n = 0
    · simp [h, Minimal]
    · rw [ofNat_of_ne_zero h]
      by_cases hq : n / 256 = 0
      · rw [hq, ofNat_zero]
        simp only [Minimal, List.nil_append, List.head?_cons, ne_eq, Option.some.injEq]
        intro hz
        have := congrArg UInt8.toNat hz
        simp only [UInt8.toNat_ofNat', UInt8.toNat_zero] at this
        omega
      · have hne : ofNat (n / 256) ≠ [] := fun e => hq (ofNat_eq_nil_iff.1 e)
        have hm := ih (n / 256) (by omega)
        obtain ⟨x, b, hb⟩ := List.exists_cons_of_ne_nil hne
        rw [hb] at hm ⊢
        exact hm

/-- The string without its leading zero bytes. -/
def stripZeros (b : Bytes) : Bytes := b.dropWhile (· == 0)

theorem minimal_stripZeros (b : Bytes) : Minimal (stripZeros b) := by
  induction b with
  | nil => simp [stripZeros, Minimal]
  | cons x b ih =>
    by_cases h : x = 0
    · simpa [stripZeros, h] using ih
    · simp [stripZeros, Minimal, h]

theorem toNat_stripZeros (b : Bytes) : toNat (stripZeros b) = toNat b := by
  induction b with
  | nil => rfl
  | cons x b ih =>
    by_cases h : x = 0
    · rw [h, toNat_zero_cons, ← ih]; simp [stripZeros]
    · simp [stripZeros, h]

/-! ### Fixed widths -/

/-- The last `width` bytes of the spelling of a number, filled up with zero bytes in front. -/
def ofNatWidth : (width : Nat) → Nat → Bytes
  | 0, _ => []
  | width + 1, n => ofNatWidth width (n / 256) ++ [UInt8.ofNat n]

end Bytes

end PlainTx
