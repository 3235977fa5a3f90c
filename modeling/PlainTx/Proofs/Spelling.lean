/-
**Texts and the bytes they spell.**

The hexadecimal text of some bytes is read back to them.  Two lists of digits spell the same bytes
exactly if they agree digit by digit in value, so that two addresses agree apart from the case of
their letters exactly if their bytes are the same.

Main results:

* `PlainTx.Hex.decode_text` — **the text of some bytes is read back to them**;
* `PlainTx.Hex.toBytes_eq_iff` — when two lists of digits spell the same bytes;
* `PlainTx.Address.agrees_iff` — **addresses agree exactly if their bytes do**;
* `PlainTx.Address.exists_ofBytes?` — twenty bytes have an address.
-/

import PlainTx.Address

set_option relaxedAutoImplicit false
set_option autoImplicit false

namespace PlainTx

namespace Hex

/-! ### Texts of bytes -/

theorem Digit.toNat_char_lt (d : Digit) : d.char.toNat < 0x80 := by
  have h := d.isHex
  unfold digitValue? at h
  split at h
  · omega
  · split at h
    · omega
    · split at h
      · omega
      · cases h

/-- What holds of the ASCII characters that are digits holds of every digit. -/
theorem Digit.of_chars {p : Char → Prop}
    (h : ∀ n : Fin 128, (digitValue? (Char.ofNat n)).isSome = true → p (Char.ofNat n))
    (d : Digit) : p d.char := by
  have hd := h ⟨d.char.toNat, d.toNat_char_lt⟩
  rw [Char.ofNat_toNat] at hd
  exact hd d.isHex

theorem length_chars (ds : List Digit) : (chars ds).length = ds.length := List.length_map _

/-- Digits are ASCII. -/
theorem foreignRun?_chars (ds : List Digit) : foreignRun? (chars ds) = none := by
  have hascii : ∀ c ∈ chars ds, decide (c.toNat < 0x80) = true := by
    intro c hc
    obtain ⟨d, _, rfl⟩ := List.mem_map.1 hc
    exact decide_eq_true d.toNat_char_lt
  have hall : (chars ds).takeWhile (fun c => decide (c.toNat < 0x80)) = chars ds := by
    rw [← List.append_nil (chars ds), List.takeWhile_append_of_pos hascii, List.takeWhile_nil]
  simp only [foreignRun?, hall, List.drop_length, List.takeWhile_nil]

/-- **The text of some bytes is read back to them.** -/
theorem decode_text (b : Bytes) : decode (text b).toList = .ok b := by
  have hbody : dropMarker (text b).toList = chars (ofBytes b) := by
    rw [text, String.toList_ofList, dropMarker, splitMarker_chars_append]
  have heven : ¬ (chars (ofBytes b)).length % 2 = 1 := by
    rw [length_chars, length_ofBytes]
    omega
  simp only [decode, hbody, foreignRun?_chars, if_neg heven, digits?_chars, toBytes_ofBytes]

/-! ### Bytes of digits -/

theorem Digit.lowerCase_eq_iff {d e : Digit} : d.lowerCase = e.lowerCase ↔ d.value = e.value := by
  constructor
  · intro h
    rw [← value_lowerCase d, h, value_lowerCase]
  · intro h
    simp only [lowerCase, h]

theorem pairByte_eq_iff {hi lo hi' lo' : Digit} :
    pairByte hi lo = pairByte hi' lo' ↔ hi.value = hi'.value ∧ lo.value = lo'.value := by
  have h₁ := hi.value_lt
  have h₂ := lo.value_lt
  have h₃ := hi'.value_lt
  have h₄ := lo'.value_lt
  rw [← UInt8.toNat_inj]
  simp only [pairByte, UInt8.toNat_ofNat']
  omega

/-- **Two lists of pairs of digits spell the same bytes** exactly if they agree in lower case. -/
theorem toBytes_eq_iff {n : Nat} {ds es : List Digit} (hds : ds.length = 2 * n)
    (hes : es.length = 2 * n) :
    toBytes ds = toBytes es ↔ ds.map Digit.lowerCase = es.map Digit.lowerCase := by
  -- induction on the number of bytes, so that two digits are taken off at a time
  induction n generalizing ds es with
  | zero =>
      rw [List.length_eq_zero_iff.1 hds, List.length_eq_zero_iff.1 hes]
      exact ⟨fun _ => rfl, fun _ => rfl⟩
  | succ n ih =>
      match ds, es, hds, hes with
      | hi :: lo :: ds, hi' :: lo' :: es, hds, hes =>
          have hds' : ds.length = 2 * n := by
            rw [List.length_cons, List.length_cons] at hds
            omega
          have hes' : es.length = 2 * n := by
            rw [List.length_cons, List.length_cons] at hes
            omega
          simp only [toBytes, List.map_cons, List.cons.injEq, pairByte_eq_iff,
            Digit.lowerCase_eq_iff, ih hds' hes', and_assoc]

theorem length_toBytes {n : Nat} {ds : List Digit} (h : ds.length = 2 * n) :
    (toBytes ds).length = n := by
  induction n generalizing ds with
  | zero => rw [List.length_eq_zero_iff.1 h]; rfl
  | succ n ih =>
      match ds, h with
      | hi :: lo :: ds, h =>
          have h' : ds.length = 2 * n := by
            rw [List.length_cons, List.length_cons] at h
            omega
          rw [toBytes, List.length_cons, ih h']

end Hex

/-! ### Addresses -/

namespace Address

theorem length_toBytes (a : Address) : a.toBytes.length = Format.addressSize :=
  Hex.length_toBytes a.length_digits

/-- **Two addresses agree exactly if their bytes are the same.** -/
theorem agrees_iff {a b : Address} : a.agrees b = true ↔ a.toBytes = b.toBytes := by
  rw [agrees, beq_iff_eq, toBytes, toBytes, Hex.toBytes_eq_iff a.length_digits b.length_digits]

/-- The address of twenty bytes has them. -/
theorem toBytes_ofBytes? {b : Bytes} {a : Address} (h : ofBytes? b = some a) : a.toBytes = b := by
  unfold ofBytes? at h
  split at h
  · cases h
    exact Hex.toBytes_ofBytes b
  · cases h

theorem exists_ofBytes? {b : Bytes} (h : b.length = Format.addressSize) :
    ∃ a, ofBytes? b = some a ∧ a.toBytes = b :=
  ⟨_, dif_pos h, Hex.toBytes_ofBytes b⟩

end Address

end PlainTx
