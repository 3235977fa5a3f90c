/-
**Minimal spellings of numbers.**

`PlainTx.Bytes.ofNat` gives every number a spelling and `PlainTx.Bytes.toNat` reads it back.  This
module proves the other direction, that a string which does not start with a zero byte is the
spelling of its number, so that minimal strings and numbers are the same thing; and it relates the
size of a number to the number of its bytes.

Main results:

* `PlainTx.Bytes.ofNat_toNat` — a minimal string is the spelling of its number;
* `PlainTx.Bytes.ofNat_injective` — numbers with one spelling are equal;
* `PlainTx.Bytes.toNat_lt_pow`, `PlainTx.Bytes.length_ofNat_le` — `k` bytes are enough exactly for
  the numbers below `256 ^ k`.
-/

import Mathlib.Algebra.Group.Nat.Defs
import Mathlib.Data.List.Induction
import PlainTx.Signature.Basic

set_option relaxedAutoImplicit false
set_option autoImplicit false

namespace PlainTx

namespace Bytes

/-! ### Spellings and numbers -/

theorem ofNat_injective {m n : Nat} (h : ofNat m = ofNat n) : m = n := by
  rw [← toNat_ofNat m, h, toNat_ofNat]

/-- A byte behind a spelling appends a digit to the number. -/
theorem ofNat_append_byte {n : Nat} (x : UInt8) (h : 256 * n + x.toNat ≠ 0) :
    ofNat (256 * n + x.toNat) = ofNat n ++ [x] := by
  have hx : x.toNat < 256 := x.toNat_lt
  have hdiv : (256 * n + x.toNat) / 256 = n := by omega
  have hbyte : UInt8.ofNat (256 * n + x.toNat) = x := by
    apply UInt8.toNat_inj.1
    rw [UInt8.toNat_ofNat']
    omega
  rw [ofNat_of_ne_zero h, hdiv, hbyte]

/-- The number of a minimal string is not zero, unless the string is empty. -/
theorem toNat_ne_zero {b : Bytes} (hne : b ≠ []) (h : Minimal b) : toNat b ≠ 0 := by
  -- induction from the last byte: a prefix of a minimal string is minimal
  induction b using List.reverseRecOn with
  | nil => exact absurd rfl hne
  | append_singleton b x ih =>
      rw [toNat_append_singleton]
      cases b with
      | nil =>
          have hx : x ≠ 0 := by simpa [Minimal] using h
          have hx0 : x.toNat ≠ 0 := fun h0 => hx (UInt8.toNat_inj.1 h0)
          simpa using hx0
      | cons y b =>
          have := ih (List.cons_ne_nil y b) h
          omega

/-- **A minimal string is the spelling of its number.** -/
theorem ofNat_toNat {b : Bytes} (h : Minimal b) : ofNat (toNat b) = b := by
  induction b using List.reverseRecOn with
  | nil => exact ofNat_zero
  | append_singleton b x ih =>
      have hne : toNat (b ++ [x]) ≠ 0 := toNat_ne_zero (by simp) h
      rw [toNat_append_singleton] at hne ⊢
      rw [ofNat_append_byte x hne]
      cases b with
      | nil => rw [toNat_nil, ofNat_zero]
      | cons y b => rw [ih h]

/-! ### Sizes -/

theorem toNat_lt_pow (b : Bytes) : toNat b < 256 ^ b.length := by
  induction b using List.reverseRecOn with
  | nil => exact Nat.one_pos
  | append_singleton b x ih =>
      have hx : x.toNat < 256 := x.toNat_lt
      rw [toNat_append_singleton, List.length_append, List.length_singleton, Nat.pow_succ]
      omega

theorem length_ofNat_le {n k : Nat} (h : n < 256 ^ k) : (ofNat n).length ≤ k := by
  induction k generalizing n with
  | zero =>
      have hn : n = 0 := by simpa using h
      rw [hn, ofNat_zero]
      exact Nat.zero_le 0
  | succ k ih =>
      by_cases hn : n = 0
      · rw [hn, ofNat_zero]
        exact Nat.zero_le _
      · rw [Nat.pow_succ] at h
        have hlen := ih (n := n / 256) (by omega)
        rw [ofNat_of_ne_zero hn, List.length_append, List.length_singleton]
        omega

theorem length_ofNat_mono {m n : Nat} (h : m ≤ n) : (ofNat m).length ≤ (ofNat n).length := by
  refine length_ofNat_le ?_
  calc m ≤ n := h
    _ = toNat (ofNat n) := (toNat_ofNat n).symm
    _ < 256 ^ (ofNat n).length := toNat_lt_pow _

end Bytes

/-! ### Signatures -/

namespace Signature

/-- A signature with minimal components is the one made of its numbers. -/
theorem ofNumbers_numbers {sig : Signature} (h : sig.Minimal) :
    ofNumbers sig.numbers.1 sig.numbers.2.1 sig.numbers.2.2 = sig := by
  obtain ⟨v, r, s⟩ := sig
  obtain ⟨hv, hr, hs⟩ := h
  simp only [ofNumbers, numbers, Bytes.ofNat_toNat hv, Bytes.ofNat_toNat hr, Bytes.ofNat_toNat hs]

end Signature

end PlainTx
