/-
**Sizes of transactions.**

An encoding is longer than what it encodes by no more than a head for each item.  So a transaction
whose numbers have at most 32 bytes each, as those of every chain do, can be written as long as its
call data stays far below the limit of the format.

Main definitions:

* `PlainTx.Payload.Body.Ordinary` — the numbers of a body have at most 32 bytes, and its call data
  is far below the limit.

Main results:

* `PlainTx.Rlp.length_encodeBytes_le` — what a head adds to a byte string;
* `PlainTx.Rlp.length_encodeBytes_mono` — a smaller number takes no more room;
* `PlainTx.Payload.fits_committing_of_signed` — a message is no longer than the signed form;
* `PlainTx.Transaction.signedFits_of_ordinary`, `PlainTx.Transaction.signingFits_of_ordinary` —
  **ordinary transactions can be written**.
-/

import PlainTx.Proofs.Forms
import PlainTx.Proofs.Wire.Payload

set_option relaxedAutoImplicit false
set_option autoImplicit false

namespace PlainTx

namespace Rlp

/-! ### Heads are short -/

theorem length_head_le {base n : Nat} (h : n < lengthLimit) : (head base n).length ≤ 9 := by
  by_cases hn : n < 56
  · rw [head_of_lt hn, List.length_singleton]
    omega
  · rw [head_of_ge (by omega), List.length_cons]
    have hdigits := length_digits_le h
    omega

theorem length_encodeBytes_le {b : Bytes} (h : b.length < lengthLimit) :
    (encodeBytes b).length ≤ b.length + 9 := by
  obtain ⟨x, rfl, _, henc⟩ | ⟨henc, _⟩ := encodeBytes_cases b
  · rw [henc]
    omega
  · have hhead : (head stringBase b.length).length ≤ 9 := length_head_le h
    rw [henc, List.length_append]
    omega

/-- Byte strings of bounded length, and their encodings in a row. -/
theorem length_encodeAll_bytes_le {bs : List Bytes} {n : Nat} (hn : n < lengthLimit)
    (h : ∀ b ∈ bs, b.length ≤ n) :
    allFit (bs.map .bytes) = true ∧
      (encodeAll (bs.map .bytes)).length ≤ bs.length * (n + 9) := by
  induction bs with
  | nil => exact ⟨rfl, Nat.zero_le _⟩
  | cons b bs ih =>
      obtain ⟨hfit, hlen⟩ := ih fun c hc => h c (List.mem_cons_of_mem _ hc)
      have hb : b.length ≤ n := h b List.mem_cons_self
      have hfirst := length_encodeBytes_le (b := b) (by omega)
      constructor
      · exact allFit_cons.2 ⟨fits_bytes.2 (by omega), hfit⟩
      · rw [List.map_cons, encodeAll, encode, List.length_append, List.length_cons,
          Nat.succ_mul]
        omega

/-- A list of byte strings fits if there is room for the strings and a head for each. -/
theorem fits_list_bytes {bs : List Bytes} {n : Nat} (hn : n < lengthLimit)
    (h : ∀ b ∈ bs, b.length ≤ n) (hroom : bs.length * (n + 9) < lengthLimit) :
    fits (.list (bs.map .bytes)) = true := by
  obtain ⟨hfit, hlen⟩ := length_encodeAll_bytes_le hn h
  exact fits_list.2 ⟨hfit, by omega⟩

/-! ### Smaller numbers take no more room -/

theorem length_head_mono {base m n : Nat} (h : m ≤ n) :
    (head base m).length ≤ (head base n).length := by
  by_cases hm : m < 56
  · rw [head_of_lt hm, List.length_singleton]
    exact List.length_pos_iff.2 (head_ne_nil base n)
  · rw [head_of_ge (by omega), head_of_ge (by omega), List.length_cons, List.length_cons]
    exact Nat.succ_le_succ (Bytes.length_ofNat_mono h)

theorem length_encodeBytes_mono {m n : Nat} (h : m ≤ n) :
    (encodeBytes (.ofNat m)).length ≤ (encodeBytes (.ofNat n)).length := by
  have hlen := Bytes.length_ofNat_mono h
  have hbyte : ∀ {k : Nat} {x : UInt8}, Bytes.ofNat k = [x] → k = x.toNat := by
    intro k x hk
    rw [← Bytes.toNat_ofNat k, hk]
    exact Nat.zero_add _
  obtain ⟨_, _, _, hm⟩ | ⟨hm, hhigh⟩ := encodeBytes_cases (.ofNat m)
  · rw [hm]
    exact length_encode_pos (.bytes (.ofNat n))
  · obtain ⟨y, hy, hlow, hn⟩ | ⟨hn, _⟩ := encodeBytes_cases (.ofNat n)
    · -- below a number that is a single byte, only zero has a head
      rw [hy, List.length_singleton] at hlen
      have hnil : (Bytes.ofNat m).length = 0 := by
        by_contra hne
        have hone : (Bytes.ofNat m).length = 1 := by omega
        obtain ⟨x, rest, hx, hxhigh⟩ := hhigh hone
        obtain ⟨z, hz⟩ := List.length_eq_one_iff.1 hone
        cases hx.symm.trans hz
        have hm := hbyte hx
        have hn := hbyte hy
        omega
      rw [hm, hn, List.length_eq_zero_iff.1 hnil]
      exact Nat.le_refl 1
    · rw [hm, hn, List.length_append, List.length_append]
      exact Nat.add_le_add (length_head_mono hlen) hlen

end Rlp

namespace Payload

/-! ### Ordinary payloads -/

/-- The numbers have at most 32 bytes, and the call data is far below the limit of the format. -/
structure Body.Ordinary (b : Body) : Prop where
  nonce : b.nonce < 256 ^ 32
  gasPrice : b.gasPrice < 256 ^ 32
  gas : b.gas < 256 ^ 32
  recipient : b.recipient.length = Format.addressSize
  value : b.value < 256 ^ 32
  data : b.data.length ≤ 256 ^ 7

theorem length_ofNat_le_room {n : Nat} (h : n < 256 ^ 32) : (Bytes.ofNat n).length ≤ 256 ^ 7 :=
  Nat.le_trans (Bytes.length_ofNat_le h) (by decide)

theorem Body.Ordinary.strings {b : Body} (h : b.Ordinary) :
    ∀ x ∈ b.strings, x.length ≤ 256 ^ 7 := by
  have hrecipient : b.recipient.length ≤ 256 ^ 7 := h.recipient ▸ by decide
  simp only [Body.strings, List.forall_mem_cons]
  exact ⟨length_ofNat_le_room h.nonce, length_ofNat_le_room h.gasPrice,
    length_ofNat_le_room h.gas, hrecipient, length_ofNat_le_room h.value, h.data, by simp⟩

/-- A payload fits if none of its strings is too long for its part of the room. -/
theorem fits_of_strings {p : Payload} (h : ∀ x ∈ p.strings, x.length ≤ 256 ^ 7) :
    p.fits = true := by
  have hcount : p.strings.length ≤ 9 := by
    cases p <;> simp [strings, Body.strings]
  have hroom : 9 * (256 ^ 7 + 9) < Rlp.lengthLimit := by decide
  have hsize : p.strings.length * (256 ^ 7 + 9) ≤ 9 * (256 ^ 7 + 9) := Nat.mul_le_mul_right _ hcount
  rw [fits, items_eq_strings]
  exact Rlp.fits_list_bytes (Nat.lt_of_le_of_lt (by omega) hroom) h (Nat.lt_of_le_of_lt hsize hroom)

/-- The strings of an ordinary body, with three more numbers of at most 32 bytes behind them. -/
theorem Body.Ordinary.strings_append {b : Body} (h : b.Ordinary) {k m n : Nat} (hk : k < 256 ^ 32)
    (hm : m < 256 ^ 32) (hn : n < 256 ^ 32) :
    ∀ x ∈ b.strings ++ [.ofNat k, .ofNat m, .ofNat n], x.length ≤ 256 ^ 7 := by
  have htail : ∀ x ∈ [Bytes.ofNat k, .ofNat m, .ofNat n], x.length ≤ 256 ^ 7 := by
    simp only [List.forall_mem_cons]
    exact ⟨length_ofNat_le_room hk, length_ofNat_le_room hm, length_ofNat_le_room hn, by simp⟩
  intro x hx
  rcases List.mem_append.1 hx with hx | hx
  · exact h.strings x hx
  · exact htail x hx

/-- An ordinary body can be written for every commitment of at most 32 bytes. -/
theorem fits_committing {b : Body} (h : b.Ordinary) {chain? : Option Nat}
    (hchain : ∀ chain, chain? = some chain → chain < 256 ^ 32) :
    (committing b chain?).fits = true := by
  cases chain? with
  | none => exact fits_of_strings h.strings
  | some chain =>
      exact fits_of_strings (h.strings_append (hchain chain rfl) (by decide) (by decide))

/-- A message that commits to a chain is no longer than a signed form in which there is a larger
number. -/
theorem fits_committing_of_signed {b : Body} {chain v r s : Nat}
    (h : (signed b v r s).fits = true) (hchain : chain ≤ v) :
    (committing b (some chain)).fits = true := by
  have hv := Rlp.length_encodeBytes_mono hchain
  have hr := Rlp.length_encodeBytes_mono (Nat.zero_le r)
  have hs := Rlp.length_encodeBytes_mono (Nat.zero_le s)
  have hlen := Bytes.length_ofNat_mono hchain
  have hzero : (Bytes.ofNat 0).length < Rlp.lengthLimit := by
    rw [Bytes.ofNat_zero]
    decide
  simp only [fits, committing, items, Body.items, numberItem, List.cons_append, List.nil_append,
    Rlp.fits_list, Rlp.allFit_cons, Rlp.fits_bytes, Rlp.encodeAll, Rlp.encode,
    List.length_append] at h ⊢
  obtain ⟨⟨hn, hp, hg, hto, hvalue, hdata, hfirst, hrest⟩, hsize⟩ := h
  refine ⟨⟨hn, hp, hg, hto, hvalue, hdata, by omega, hzero, hzero, rfl⟩, by omega⟩

end Payload

namespace Transaction

variable {t : Transaction} {body : Payload.Body}

/-- **The signed form of an ordinary transaction can be written.** -/
theorem signedFits_of_ordinary {sig : Signature} (hbody : t.body = .ok body)
    (hordinary : body.Ordinary) (hsig : t.signature? = some sig) (hv : sig.v.toNat < 256 ^ 32)
    (hr : sig.r.toNat < 256 ^ 32) (hs : sig.s.toNat < 256 ^ 32) : t.SignedFits := by
  intro p hp
  rw [signedPayload, hsig, hbody] at hp
  cases hp
  exact Payload.fits_of_strings (hordinary.strings_append hv hr hs)

/-- **The signing form of an ordinary transaction can be written.** -/
theorem signingFits_of_ordinary {chain : Nat} (hbody : t.body = .ok body)
    (hordinary : body.Ordinary) (hchain : t.common.chainId.map Quantity.toNat = some chain)
    (hlt : chain < 256 ^ 32) : t.SigningFits := by
  intro p hp
  rw [signingPayload, number_eq_ok_iff.2 hchain, Result.ok_bind, payloadForChain, hbody] at hp
  cases hp
  have hchainLt : ∀ c, some chain = some c → c < 256 ^ 32 := by
    rintro c ⟨⟩
    exact hlt
  exact Payload.fits_committing hordinary hchainLt

end Transaction

end PlainTx
