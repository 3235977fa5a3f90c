/-
**Signatures of three components.**

A component may be given as an integer, as bytes or as the hexadecimal digits of a text, with any
zeros in front, and in every form it comes to the minimal bytes of the number that is given.  So a
signature of three components has one form: the three numbers determine it, its numbers make it
again, and it is the placeholder only where its numbers are those of the placeholder.

Main definitions:

* `PlainTx.Value.numberFault` — the fault that a value gives no number.

Main results:

* `PlainTx.Value.gives_iff` — the numbers that are given, by the places of their digits;
* `PlainTx.Signature.ofComponents_eq_ok_iff` — the signature of three components;
* `PlainTx.Signature.isPlaceholder_iff` — a minimal signature that stands for none;
* `PlainTx.Signature.ofComponents_eq_error_iff` — the leftmost bad component is to blame;
* `PlainTx.Value.kind?_numberFault` — which cannot be said if it is too long;
* `PlainTx.Signature.ofComponents_exactly` — **signatures of components have one form**;
* `PlainTx.Signature.ofComponents_longComponent` — a bad component that is not blamed.
-/

import Mathlib.Data.Nat.Digits.Defs
import PlainTx.Proofs.Agreement
import PlainTx.Proofs.Appending

set_option relaxedAutoImplicit false
set_option autoImplicit false

namespace PlainTx

open Result (firstRefused_cons_iff not_firstRefused_nil)

/-! ### Numbers by the places of their digits -/

theorem Bytes.toNat_eq_ofDigits (b : Bytes) :
    b.toNat = Nat.ofDigits 256 (b.map UInt8.toNat).reverse := by
  simp only [Nat.ofDigits_eq_foldr, List.foldr_reverse, List.foldl_map, toNat, Nat.cast_id,
    Nat.add_comm]

theorem Hex.toNat_eq_ofDigits (ds : List Digit) :
    toNat ds = Nat.ofDigits 16 (ds.map Digit.value).reverse := by
  simp only [Nat.ofDigits_eq_foldr, List.foldr_reverse, List.foldl_map, toNat, Nat.cast_id,
    Nat.add_comm]

/-- **The numbers that are given**: an integer that is not negative, the number whose digits to the
base 256 some bytes are, or that whose digits to the base 16 stand in a text that is not empty,
behind an optional marker. -/
theorem Value.gives_iff {x : Value} {n : Nat} :
    x.Gives n ↔ x = .int n ∨
      (∃ b, x = .bytes b ∧ n = Nat.ofDigits 256 (b.map UInt8.toNat).reverse) ∨
      ∃ s m ds, x = .text s ∧ s ≠ "" ∧ s.toList = Hex.written m ds ∧
        n = Nat.ofDigits 16 (ds.map Hex.Digit.value).reverse := by
  simp only [← Bytes.toNat_eq_ofDigits, ← Hex.toNat_eq_ofDigits]
  constructor
  · rintro ⟨hdenotes, hne⟩
    cases hdenotes with
    | int => exact .inl rfl
    | bytes b => exact .inr (.inl ⟨b, rfl, rfl⟩)
    | text h => exact .inr (.inr ⟨_, _, _, rfl, fun hs => hne (congrArg Value.text hs), h, rfl⟩)
  · rintro (rfl | ⟨b, rfl, rfl⟩ | ⟨s, m, ds, rfl, hne, h, rfl⟩)
    · exact gives_int n
    · exact gives_bytes b
    · exact ⟨.text h, fun hs => hne (Value.text.inj hs)⟩

/-! ### Values that give no number -/

/-- The fault that a value gives no number.  An integer is shown, unless it has too many digits. -/
def Value.numberFault (name : String) : Value → Fault
  | .int z =>
    if Decimal.writable z then .malformed name (.int z) (Value.int z).numberFlaw else .tooManyDigits
  | x => .malformed name x x.numberFlaw

theorem Value.numberFault_of_long {name : String} {z : Int} (h : Decimal.writable z = false) :
    (Value.int z).numberFault name = .tooManyDigits := by
  rw [numberFault, h]
  rfl

/-- Of the values that may give numbers, only integers can be too long to be shown. -/
theorem Fault.ofFlaw_numberFlaw [Stack] (name : String) (x : Value) :
    ofFlaw name x x.numberFlaw = x.numberFault name := by
  cases x with
  | int z =>
      rw [Value.numberFault]
      split
      · next hz => exact ofFlaw_of_printable fun _ => ⟨hz, Nat.zero_le _⟩
      · next hz => exact ofFlaw_of_long rfl (Bool.eq_false_iff.2 hz)
  | text s => exact ofFlaw_text name s .notHex
  | _ => rfl

/-- The integers that give no number are the negative ones. -/
theorem Value.not_gives_int_iff {z : Int} : (¬ ∃ n, (Value.int z).Gives n) ↔ z < 0 := by
  cases z with
  | ofNat n =>
      exact iff_of_false (fun h => h ⟨n, gives_int n⟩) (Int.not_lt.2 (Int.natCast_nonneg n))
  | negSucc k =>
      exact iff_of_true (fun ⟨n, hn⟩ => not_gives_negSucc k n hn) (Int.negSucc_lt_zero k)

/-- **That a value gives no number is a bad format**, unless it is a negative integer that has too
many digits. -/
theorem Value.kind?_numberFault (name : String) {x : Value} (h : ¬ ∃ n, x.Gives n) :
    (x.numberFault name).kind? = some .invalidFormat ∨
      x.numberFault name = .tooManyDigits ∧ ∃ z < 0, x = .int z ∧ Decimal.writable z = false := by
  cases x with
  | int z =>
      rw [numberFault]
      split
      · exact .inl rfl
      · next hz => exact .inr ⟨rfl, z, not_gives_int_iff.1 h, rfl, Bool.eq_false_iff.2 hz⟩
  | _ => exact .inl rfl

/-- A component is refused if it gives no number. -/
theorem Entry.refused_component_iff [Stack] {name : String} {x : Value} {fault : Fault} :
    Refused ⟨name, .component, x⟩ fault ↔
      (¬ ∃ n, x.Gives n) ∧ fault = x.numberFault name := by
  rw [← Fault.ofFlaw_numberFlaw]
  constructor
  · intro h
    cases h with
    | missing habsent => cases habsent
    | flawed _ hflawed => exact ⟨hflawed, rfl⟩
  · rintro ⟨hflawed, rfl⟩
    exact .flawed id hflawed

namespace Signature

variable {v r s : Value} {sig : Signature}

/-! ### The signature of three components -/

/-- **Three components make the signature of the numbers that they give.** -/
theorem ofComponents_eq_ok_iff [Stack] : ofComponents v r s = .ok sig ↔
    ∃ a b c, v.Gives a ∧ r.Gives b ∧ s.Gives c ∧ sig = ofNumbers a b c := by
  constructor
  · intro h
    have hread : read (.tuple [v, r, s]) = .ok sig := h
    cases read_eq_ok_iff.1 hread with
    | triple hx hv hr hs =>
        cases hx
        exact ⟨_, _, _, hv, hr, hs, rfl⟩
  · rintro ⟨a, b, c, hv, hr, hs, rfl⟩
    exact ofComponents_of_gives hv hr hs

/-- The numbers of a signature of components make it again. -/
theorem ofComponents_numbers [Stack] (a b c : Nat) :
    ofComponents (.int a) (.int b) (.int c) = .ok (ofNumbers a b c) :=
  ofComponents_of_gives (Value.gives_int a) (Value.gives_int b) (Value.gives_int c)

/-- A minimal signature stands for none exactly if it is the placeholder itself. -/
theorem isPlaceholder_iff (h : sig.Minimal) :
    sig.isPlaceholder = true ↔ sig = placeholder := by
  rw [placeholder, eq_iff_numbers h (minimal_ofNumbers 1 0 0), isPlaceholder, beq_iff_eq,
    numbers_ofNumbers]

/-- **The leftmost component that gives no number is to blame.** -/
theorem ofComponents_eq_error_iff [Stack] {fault : Fault} : ofComponents v r s = .error fault ↔
    (¬ ∃ n, v.Gives n) ∧ fault = v.numberFault "v" ∨
    (∃ n, v.Gives n) ∧ ((¬ ∃ n, r.Gives n) ∧ fault = r.numberFault "r" ∨
    (∃ n, r.Gives n) ∧ (¬ ∃ n, s.Gives n) ∧ fault = s.numberFault "s") := by
  rw [(decides_ofComponents v r s).error_iff, Value.components]
  simp only [firstRefused_cons_iff, not_firstRefused_nil, and_false, or_false,
    Entry.refused_component_iff]
  rfl

/-- A component that gives no number has a bad format, or is too long to say so. -/
theorem kind?_of_ofComponents [Stack] {fault : Fault} (h : ofComponents v r s = .error fault) :
    fault.kind? = some .invalidFormat ∨
      fault = .tooManyDigits ∧
        ∃ x ∈ [v, r, s], ∃ z < 0, x = .int z ∧ Decimal.writable z = false := by
  have hblamed : ∃ name, ∃ x ∈ [v, r, s], (¬ ∃ n, x.Gives n) ∧ fault = x.numberFault name := by
    rcases ofComponents_eq_error_iff.1 h with ⟨hv, hfault⟩ | ⟨_, ⟨hr, hfault⟩ | ⟨_, hs, hfault⟩⟩
    · exact ⟨"v", v, by simp, hv, hfault⟩
    · exact ⟨"r", r, by simp, hr, hfault⟩
    · exact ⟨"s", s, by simp, hs, hfault⟩
  obtain ⟨name, x, hx, hnone, rfl⟩ := hblamed
  exact (Value.kind?_numberFault name hnone).imp_right fun ⟨hfault, hlong⟩ =>
    ⟨hfault, x, hx, hlong⟩

/-- **Signatures of components have one form.**  Three components make a signature exactly if each
of them gives a number.  The signature has these numbers and is minimal, its numbers make it again,
and it stands for none exactly if it is the placeholder; two of them are the same exactly if their
numbers are.  Otherwise the leftmost component that gives no number has a bad format, unless it is a
negative integer that has too many digits to be shown. -/
theorem ofComponents_exactly [Stack] (v r s : Value) :
    (∀ a b c, v.Gives a → r.Gives b → s.Gives c →
      ∃ sig, ofComponents v r s = .ok sig ∧ sig.numbers = (a, b, c) ∧ sig.Minimal ∧
        ofComponents (.int sig.numbers.1) (.int sig.numbers.2.1) (.int sig.numbers.2.2) =
          .ok sig ∧
        (sig.isPlaceholder = true ↔ sig = placeholder)) ∧
    (∀ sig, ofComponents v r s = .ok sig → ∀ v' r' s' sig', ofComponents v' r' s' = .ok sig' →
      (sig = sig' ↔ sig.numbers = sig'.numbers)) ∧
    ((∃ sig, ofComponents v r s = .ok sig) ↔
      (∃ a, v.Gives a) ∧ (∃ b, r.Gives b) ∧ ∃ c, s.Gives c) ∧
    ∀ fault,
      (ofComponents v r s = .error fault ↔
        (¬ ∃ n, v.Gives n) ∧ fault = v.numberFault "v" ∨
        (∃ n, v.Gives n) ∧ ((¬ ∃ n, r.Gives n) ∧ fault = r.numberFault "r" ∨
        (∃ n, r.Gives n) ∧ (¬ ∃ n, s.Gives n) ∧ fault = s.numberFault "s")) ∧
      (ofComponents v r s = .error fault → fault.kind? = some .invalidFormat ∨
        fault = .tooManyDigits ∧
          ∃ x ∈ [v, r, s], ∃ z < 0, x = .int z ∧ Decimal.writable z = false) := by
  refine ⟨fun a b c hv hr hs => ?_, fun sig h v' r' s' sig' h' => ?_, ?_,
    fun fault => ⟨ofComponents_eq_error_iff, kind?_of_ofComponents⟩⟩
  · have hminimal := minimal_ofNumbers a b c
    refine ⟨ofNumbers a b c, ofComponents_of_gives hv hr hs, numbers_ofNumbers a b c, hminimal, ?_,
      isPlaceholder_iff hminimal⟩
    rw [numbers_ofNumbers]
    exact ofComponents_numbers a b c
  · obtain ⟨a, b, c, _, _, _, rfl⟩ := ofComponents_eq_ok_iff.1 h
    obtain ⟨a', b', c', _, _, _, rfl⟩ := ofComponents_eq_ok_iff.1 h'
    exact eq_iff_numbers (minimal_ofNumbers a b c) (minimal_ofNumbers a' b' c')
  · constructor
    · rintro ⟨sig, h⟩
      obtain ⟨a, b, c, hv, hr, hs, _⟩ := ofComponents_eq_ok_iff.1 h
      exact ⟨⟨a, hv⟩, ⟨b, hr⟩, c, hs⟩
    · rintro ⟨⟨a, hv⟩, ⟨b, hr⟩, c, hs⟩
      exact ⟨_, ofComponents_of_gives hv hr hs⟩

open scoped Stack.Usual

/-- A text with the other marker and zeros in front, bytes with a zero in front, and an integer. -/
theorem ofComponents_exactly_mixed :
    ∃ sig, ofComponents (.text "0X01b") (.bytes [0, 5]) (.int 6) = .ok sig ∧
      sig.numbers = (27, 5, 6) ∧ ofComponents (.int 27) (.int 5) (.int 6) = .ok sig := by
  have hv : (Value.text "0X01b").Gives 27 := Value.gives_of_scan
    (show Hex.scan "0X01b".toList = some (some .upper,
      [Hex.lastDigit 0, Hex.lastDigit 1, Hex.lastDigit 11]) by decide)
  obtain ⟨sig, hsig, hnumbers, _, hagain, _⟩ :=
    (ofComponents_exactly _ _ _).1 27 5 6 hv (Value.gives_bytes [0, 5]) (Value.gives_int 6)
  rw [hnumbers] at hagain
  exact ⟨sig, hsig, hnumbers, hagain⟩

/-- **A component that is not blamed**: it is negative, but there are no words to say so. -/
theorem ofComponents_longComponent :
    ofComponents (.int (-Decimal.leastLong)) (.int 0) (.int 0) = .error .tooManyDigits ∧
      Fault.tooManyDigits.kind? = none ∧ Fault.tooManyDigits.field? = none := by
  have hnone : ¬ ∃ n, (Value.int (-Decimal.leastLong)).Gives n :=
    Value.not_gives_int_iff.2 (Int.neg_neg_of_pos (Int.natCast_pos.2 Decimal.leastLong_pos))
  have hfault : (Value.int (-Decimal.leastLong)).numberFault "v" = .tooManyDigits :=
    Value.numberFault_of_long Decimal.not_writable_neg_leastLong
  exact ⟨ofComponents_eq_error_iff.2 (.inl ⟨hnone, hfault.symm⟩), rfl, rfl⟩

end Signature

end PlainTx
