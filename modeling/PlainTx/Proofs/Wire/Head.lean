/-
**Heads of items.**

A head is written by `PlainTx.Rlp.head` and read by `PlainTx.Rlp.readHead`.  This module proves that
the two are inverse to each other: the reader takes a written head for what it was written for, and
every head it accepts, with all of its bytes there, is the one that would have been written.  The
second half is where the strictness of the reader is used; each of its checks refuses one way of
writing a length that is not the shortest one.

Main results:

* `PlainTx.Rlp.readLength_ofNat`, `PlainTx.Rlp.ofNat_of_readLength` — the two directions for the
  length behind the first byte of a long head;
* `PlainTx.Rlp.readHead_listHead`, `PlainTx.Rlp.readHead_stringHead` — a written head is read;
* `PlainTx.Rlp.readHead_cases` — what a head that is read can be;
* `PlainTx.Rlp.listHead_of_readHead`, `PlainTx.Rlp.stringHead_of_readHead` — **a head that is read
  is the written one**.
-/

import PlainTx.Proofs.Minimal
import PlainTx.Proofs.Result
import PlainTx.Rlp.Reader

set_option relaxedAutoImplicit false
set_option autoImplicit false

namespace PlainTx.Rlp

/-! ### Lengths behind the first byte -/

theorem lengthLimit_eq : lengthLimit = 256 ^ 8 := rfl

/-- A length that can be written has at most eight bytes. -/
theorem length_digits_le {n : Nat} (h : n < lengthLimit) : (Bytes.ofNat n).length ≤ 8 :=
  Bytes.length_ofNat_le (lengthLimit_eq ▸ h)

theorem digits_ne_nil {n : Nat} (h : 56 ≤ n) : Bytes.ofNat n ≠ [] := by
  intro hnil
  have := Bytes.ofNat_eq_nil_iff.1 hnil
  omega

/-- A long length is read from its minimal spelling. -/
theorem readLength_ofNat {n : Nat} (short : Fault) (rest : Bytes) (h : 56 ≤ n) :
    readLength short (Bytes.ofNat n).length (Bytes.ofNat n ++ rest) = .ok n := by
  obtain ⟨x, b, hb⟩ := List.exists_cons_of_ne_nil (digits_ne_nil h)
  have hmin : Bytes.Minimal (Bytes.ofNat n) := Bytes.minimal_ofNat n
  have hhead : (Bytes.ofNat n ++ rest).head? ≠ some 0 := by
    rw [hb] at hmin ⊢
    exact hmin
  have hshort : ¬ n < 56 := by omega
  simp only [readLength, if_neg hhead, List.take_left, Bytes.toNat_ofNat, if_neg hshort]

/-- A length that is read, with all of its bytes there, is spelled minimally by them. -/
theorem ofNat_of_readLength {short : Fault} {count length : Nat} {tail : Bytes}
    (h : readLength short count tail = .ok length) (hcount : count ≠ 0) :
    Bytes.ofNat length = tail.take count ∧ 56 ≤ length := by
  unfold readLength at h
  split at h
  · cases h
  · next hhead =>
      dsimp only at h
      split at h
      · cases h
      · next hlong =>
          cases h
          refine ⟨Bytes.ofNat_toNat ?_, by omega⟩
          cases tail with
          | nil => simp [Bytes.Minimal]
          | cons x tail =>
              obtain ⟨k, rfl⟩ := Nat.exists_eq_succ_of_ne_zero hcount
              simpa [Bytes.Minimal] using hhead

/-! ### Written heads -/

theorem head_of_lt {base n : Nat} (h : n < 56) : head base n = [UInt8.ofNat (base + n)] := by
  rw [head, if_pos h]

theorem head_of_ge {base n : Nat} (h : 56 ≤ n) :
    head base n = UInt8.ofNat (base + 55 + (Bytes.ofNat n).length) :: Bytes.ofNat n := by
  rw [head, if_neg (by omega)]

theorem toNat_firstByte {n : Nat} (h : n < 256) : (UInt8.ofNat n).toNat = n := by
  rw [UInt8.toNat_ofNat', Nat.mod_eq_of_lt h]

/-- The head of a list is read as such. -/
theorem readHead_listHead {n : Nat} (h : n < lengthLimit) :
    ∃ first digits, head listBase n = first :: digits ∧
      ∀ rest, readHead first (digits ++ rest) = .ok (.list digits.length n) := by
  by_cases hshort : n < 56
  · refine ⟨_, _, head_of_lt hshort, fun rest => ?_⟩
    have hfirst : (UInt8.ofNat (listBase + n)).toNat = 0xC0 + n :=
      toNat_firstByte (by simp only [listBase]; omega)
    simp only [readHead, hfirst]
    rw [if_neg (by omega), if_neg (by omega), if_neg (by omega), if_pos (by omega),
      Nat.add_sub_cancel_left, List.length_nil]
  · have hlong : 56 ≤ n := by omega
    refine ⟨_, _, head_of_ge hlong, fun rest => ?_⟩
    have hle := length_digits_le h
    have hpos := List.length_pos_iff.2 (digits_ne_nil hlong)
    have hfirst : (UInt8.ofNat (listBase + 55 + (Bytes.ofNat n).length)).toNat =
        0xF7 + (Bytes.ofNat n).length :=
      toNat_firstByte (by simp only [listBase]; omega)
    simp only [readHead, hfirst]
    rw [if_neg (by omega), if_neg (by omega), if_neg (by omega), if_neg (by omega),
      Nat.add_sub_cancel_left, readLength_ofNat _ rest hlong]
    rfl

/-- The head of a byte string is read as such; where a single byte follows, it has to be one that
does not stand for itself. -/
theorem readHead_stringHead {n : Nat} (h : n < lengthLimit) :
    ∃ first digits, head stringBase n = first :: digits ∧
      ∀ rest, (n = 1 → ∃ x tail, rest = x :: tail ∧ 0x80 ≤ x.toNat) →
        readHead first (digits ++ rest) = .ok (.string digits.length n) := by
  by_cases hshort : n < 56
  · refine ⟨_, _, head_of_lt hshort, fun rest hsingle => ?_⟩
    have hfirst : (UInt8.ofNat (stringBase + n)).toNat = 0x80 + n :=
      toNat_firstByte (by simp only [stringBase]; omega)
    simp only [readHead, hfirst]
    rw [if_neg (by omega), if_pos (by omega)]
    by_cases hone : n = 1
    · obtain ⟨x, tail, rfl, hx⟩ := hsingle hone
      subst hone
      have hbyte : ¬ x.toNat < 0x80 := by omega
      simp [hbyte]
    · rw [if_neg (by omega), Nat.add_sub_cancel_left, List.length_nil]
  · have hlong : 56 ≤ n := by omega
    refine ⟨_, _, head_of_ge hlong, fun rest _ => ?_⟩
    have hle := length_digits_le h
    have hpos := List.length_pos_iff.2 (digits_ne_nil hlong)
    have hfirst : (UInt8.ofNat (stringBase + 55 + (Bytes.ofNat n).length)).toNat =
        0xB7 + (Bytes.ofNat n).length :=
      toNat_firstByte (by simp only [stringBase]; omega)
    simp only [readHead, hfirst]
    rw [if_neg (by omega), if_neg (by omega), if_pos (by omega), Nat.add_sub_cancel_left,
      readLength_ofNat _ rest hlong]
    rfl

/-! ### Heads that are read -/

/-- **What a head that is read can be**: the byte itself, a short or a long head of a byte string,
or a short or a long head of a list. -/
theorem readHead_cases {first : UInt8} {tail : Bytes} {shape : Head}
    (h : readHead first tail = .ok shape) :
    (first.toNat < 0x80 ∧ shape = .single) ∨
    (0x80 ≤ first.toNat ∧ first.toNat < 0xB8 ∧ shape = .string 0 (first.toNat - 0x80) ∧
      (first.toNat = 0x81 → ∃ x rest, tail = x :: rest ∧ 0x80 ≤ x.toNat)) ∨
    (0xB8 ≤ first.toNat ∧ first.toNat < 0xC0 ∧ ∃ short length,
      readLength short (first.toNat - 0xB7) tail = .ok length ∧
        shape = .string (first.toNat - 0xB7) length) ∨
    (0xC0 ≤ first.toNat ∧ first.toNat < 0xF8 ∧ shape = .list 0 (first.toNat - 0xC0)) ∨
    (0xF8 ≤ first.toNat ∧ ∃ short length,
      readLength short (first.toNat - 0xF7) tail = .ok length ∧
        shape = .list (first.toNat - 0xF7) length) := by
  simp only [readHead] at h
  split at h
  · next h80 =>
      cases h
      exact .inl ⟨h80, rfl⟩
  · next h80 =>
      split at h
      · next hB8 =>
          refine .inr (.inl ⟨by omega, hB8, ?_⟩)
          split at h
          · next h81 =>
              cases tail with
              | nil => cases h
              | cons x rest =>
                  simp only at h
                  split at h
                  · cases h
                  · next hx =>
                      cases h
                      exact ⟨by rw [h81], fun _ => ⟨x, rest, rfl, by omega⟩⟩
          · next h81 =>
              cases h
              exact ⟨rfl, fun heq => absurd heq h81⟩
      · next hB8 =>
          split at h
          · next hC0 =>
              obtain ⟨length, hlength, h⟩ := Result.bind_eq_ok.1 h
              cases h
              exact .inr (.inr (.inl ⟨by omega, hC0, _, length, hlength, rfl⟩))
          · next hC0 =>
              split at h
              · next hF8 =>
                  cases h
                  exact .inr (.inr (.inr (.inl ⟨by omega, hF8, rfl⟩)))
              · next hF8 =>
                  obtain ⟨length, hlength, h⟩ := Result.bind_eq_ok.1 h
                  cases h
                  exact .inr (.inr (.inr (.inr ⟨by omega, _, length, hlength, rfl⟩)))

/-- A long head that is read, with all of its bytes there, is the written one. -/
theorem head_of_readLength (base : Nat) (first : UInt8) {count length : Nat} {tail : Bytes}
    {short : Fault} (hfirst : first.toNat = base + 55 + count) (hpos : count ≠ 0)
    (hcount : count ≤ 8) (h : readLength short count tail = .ok length)
    (hlen : count ≤ tail.length) :
    head base length = first :: tail.take count ∧ length < lengthLimit ∧ 56 ≤ length := by
  obtain ⟨hdigits, hlong⟩ := ofNat_of_readLength h hpos
  have hlength : (Bytes.ofNat length).length = count := by
    rw [hdigits, List.length_take, Nat.min_eq_left hlen]
  refine ⟨?_, ?_, hlong⟩
  · rw [head_of_ge hlong, hlength, ← hfirst, hdigits, UInt8.ofNat_toNat]
  · calc length = (Bytes.ofNat length).toNat := (Bytes.toNat_ofNat length).symm
      _ < 256 ^ (Bytes.ofNat length).length := Bytes.toNat_lt_pow _
      _ ≤ 256 ^ 8 := Nat.pow_le_pow_right (by decide) (hlength ▸ hcount)
      _ = lengthLimit := lengthLimit_eq.symm

/-- A short head is the written one. -/
theorem head_of_short {base : Nat} {first : UInt8} (hbase : base ≤ first.toNat)
    (h : first.toNat < base + 56) : head base (first.toNat - base) = [first] := by
  have hfirst : base + (first.toNat - base) = first.toNat := by omega
  rw [head_of_lt (by omega), hfirst, UInt8.ofNat_toNat]

/-- **A head of a list that is read is the written one.** -/
theorem listHead_of_readHead {first : UInt8} {tail : Bytes} {skip length : Nat}
    (h : readHead first tail = .ok (.list skip length)) (hlen : skip ≤ tail.length) :
    head listBase length = first :: tail.take skip ∧ length < lengthLimit := by
  have hbyte : first.toNat < 256 := first.toNat_lt
  obtain ⟨-, h⟩ | ⟨-, -, h, -⟩ | ⟨-, -, _, _, -, h⟩ | ⟨hC0, hF8, h⟩ | ⟨hF8, _, _, hread, h⟩ :=
    readHead_cases h
  · cases h
  · cases h
  · cases h
  · cases h
    exact ⟨head_of_short hC0 hF8, by simp only [lengthLimit]; omega⟩
  · obtain ⟨hskip, hlength⟩ := Head.list.inj h
    rw [← hskip, ← hlength] at hread
    obtain ⟨hhead, hlimit, -⟩ := head_of_readLength listBase first
      (by simp only [listBase]; omega) (by omega) (by omega) hread hlen
    exact ⟨hhead, hlimit⟩

/-- **A head of a byte string that is read is the written one**, and a single byte behind it does
not stand for itself. -/
theorem stringHead_of_readHead {first : UInt8} {tail : Bytes} {skip length : Nat}
    (h : readHead first tail = .ok (.string skip length)) (hlen : skip ≤ tail.length) :
    head stringBase length = first :: tail.take skip ∧ length < lengthLimit ∧
      (length = 1 → ∃ x rest, tail.drop skip = x :: rest ∧ 0x80 ≤ x.toNat) := by
  have hbyte : first.toNat < 256 := first.toNat_lt
  obtain ⟨-, h⟩ | ⟨h80, hB8, h, hsingle⟩ | ⟨hB8, hC0, _, _, hread, h⟩ | ⟨-, -, h⟩ |
      ⟨-, _, _, -, h⟩ := readHead_cases h
  · cases h
  · cases h
    refine ⟨head_of_short h80 hB8, by simp only [lengthLimit]; omega, fun hone => ?_⟩
    exact hsingle (by omega)
  · obtain ⟨hskip, hlength⟩ := Head.string.inj h
    rw [← hskip, ← hlength] at hread
    obtain ⟨hhead, hlimit, hlong⟩ := head_of_readLength stringBase first
      (by simp only [stringBase]; omega) (by omega) (by omega) hread hlen
    exact ⟨hhead, hlimit, by omega⟩
  · cases h
  · cases h

theorem toNat_lt_of_single {first : UInt8} {tail : Bytes}
    (h : readHead first tail = .ok .single) : first.toNat < 0x80 := by
  obtain ⟨h80, -⟩ | ⟨-, -, h, -⟩ | ⟨-, -, _, _, -, h⟩ | ⟨-, -, h⟩ | ⟨-, _, _, -, h⟩ :=
    readHead_cases h
  · exact h80
  · cases h
  · cases h
  · cases h
  · cases h

end PlainTx.Rlp
