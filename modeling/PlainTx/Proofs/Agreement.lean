/-
**Comparing transactions compares their bytes.**

Comparing looks at fields, each by what it means: numbers, the bytes of an address, call data, and
the components of a signature.  The signed form has the same things as bytes.  A form tells its body
and the numbers of its signature, and a signature without zeros in front is told by its numbers; so
two transactions agree exactly if they are written the same, whatever their spellings, chain ids
and policies.

Main results:

* `PlainTx.Payload.signed_write_inj` — a signed form tells its body and the numbers of its
  signature;
* `PlainTx.Signature.eq_iff_numbers` — a minimal signature is told by its numbers;
* `PlainTx.Transaction.compare_iff_encode` — **transactions compare equal exactly if their signed
  forms are the same**.
-/

import PlainTx.Proofs.RoundTrip

set_option relaxedAutoImplicit false
set_option autoImplicit false

namespace PlainTx

/-! ### What a signed form tells -/

/-- The items of a signed payload tell its body and the numbers of its signature. -/
theorem Payload.signed_items_injective {a b : Payload.Body} {v r s v' r' s' : Nat}
    (h : (Payload.signed a v r s).items = (Payload.signed b v' r' s').items) :
    a = b ∧ (v, r, s) = (v', r', s') := by
  have hlength : a.items.length = b.items.length := rfl
  obtain ⟨hbody, htail⟩ := List.append_inj h hlength
  obtain ⟨hv, htail⟩ := List.cons.inj htail
  obtain ⟨hr, htail⟩ := List.cons.inj htail
  obtain ⟨hs, _⟩ := List.cons.inj htail
  rw [numberItem_injective hv, numberItem_injective hr, numberItem_injective hs]
  exact ⟨Body.items_injective hbody, rfl⟩

/-- **Signed forms that can be written are the same** exactly if their bodies and the numbers of
their signatures are. -/
theorem Payload.signed_write_inj {a b : Payload.Body} {sig tau : Signature} {m n : Bytes}
    (hm : (Payload.signed a sig.v.toNat sig.r.toNat sig.s.toNat).write = .ok m)
    (hn : (Payload.signed b tau.v.toNat tau.r.toNat tau.s.toNat).write = .ok n) :
    m = n ↔ a = b ∧ sig.numbers = tau.numbers := by
  obtain ⟨hfitsM, rfl⟩ := write_eq_ok_iff.1 hm
  obtain ⟨hfitsN, rfl⟩ := write_eq_ok_iff.1 hn
  constructor
  · intro h
    exact signed_items_injective (encode_injective hfitsM hfitsN h)
  · rintro ⟨rfl, hnumbers⟩
    obtain ⟨hv, hr, hs⟩ : sig.v.toNat = tau.v.toNat ∧ sig.r.toNat = tau.r.toNat ∧
        sig.s.toNat = tau.s.toNat := by simpa [Signature.numbers] using hnumbers
    rw [hv, hr, hs]

/-- Signatures without zeros in front are the same exactly if their numbers are. -/
theorem Signature.eq_iff_numbers {sig tau : Signature} (hsig : sig.Minimal) (htau : tau.Minimal) :
    sig = tau ↔ sig.numbers = tau.numbers := by
  constructor
  · rintro rfl
    rfl
  · intro h
    rw [← ofNumbers_numbers hsig, h, ofNumbers_numbers htau]

namespace Transaction

/-! ### Two spellings of one transaction -/

/-- The transaction `oddlySpelled` in the common spelling, under the other policy and without a
chain id. -/
def plainlySpelled : Transaction where
  recipient := ⟨.lower, Hex.ofBytes (List.replicate 10 0xAA ++ List.replicate 10 0), rfl⟩
  value := .ofNat 0
  input := List.replicate 56 0x80
  common := { nonce := some (.ofNat 10), gasPrice := some (.ofNat 0xA0A), gas := some (.ofNat 0) }
  slot := { Slot.forTransaction .replaceEmpty with signature := some oddSignature }

theorem body_plainlySpelled : plainlySpelled.body = .ok
    ⟨10, 0xA0A, 0, oddlySpelled.recipient.toBytes, 0, List.replicate 56 0x80⟩ :=
  body_eq_ok_iff.2 ⟨congrArg some (Quantity.toNat_ofNat _), congrArg some (Quantity.toNat_ofNat _),
    congrArg some (Quantity.toNat_ofNat _), by decide, Quantity.toNat_ofNat _, rfl⟩

theorem signedFits_plainlySpelled : plainlySpelled.SignedFits := by
  have hsig : plainlySpelled.signature? = some oddSignature := rfl
  refine signedFits_of_ordinary body_plainlySpelled ?_ hsig (by decide) (by decide) (by decide)
  exact ⟨by decide, by decide, by decide, rfl, by decide, by decide⟩

theorem equalFields_plainlySpelled : oddlySpelled.equalFields plainlySpelled true = true :=
  (equalFields_iff_body body_plainlySpelled).2 ⟨rfl, fun _ => rfl⟩

/-! ### Comparing and writing -/

/-- Two transactions that can be written agree exactly if their bodies and the numbers of their
signatures are the same. -/
theorem equalFields_iff_numbers {t u : Transaction} {a b : Payload.Body} {sig tau : Signature}
    (ha : t.body = .ok a) (hb : u.body = .ok b) (hsig : t.signature? = some sig)
    (htau : u.signature? = some tau) (hminimalSig : sig.Minimal) (hminimalTau : tau.Minimal) :
    t.equalFields u true = true ↔ a = b ∧ sig.numbers = tau.numbers := by
  rw [equalFields_iff_body hb, ha, hsig, htau, Except.ok.injEq, Option.some.injEq,
    Signature.eq_iff_numbers hminimalSig hminimalTau]
  simp only [true_implies]

/-- **Transactions compare equal exactly if their signed forms are the same.**  Where they differ,
the answer is no; only a detailed journal may have to hold numbers that are too long for it. -/
theorem compare_iff_encode [Stack] {t u : Transaction} {sig tau : Signature}
    (ht : t.common.Complete) (hu : u.common.Complete) (hsig : t.signature? = some sig)
    (htau : u.signature? = some tau) (hminimalSig : sig.Minimal) (hminimalTau : tau.Minimal)
    (hfitsT : t.SignedFits) (hfitsU : u.SignedFits) (detailed : Bool) :
    ∃ m n, (encode t).result = .ok m ∧ (encode u).result = .ok n ∧
      ((compare detailed u true t).result = .ok true ↔ m = n) ∧
      (m ≠ n → (compare detailed u true t).result = .ok false ∨
        detailed = true ∧ (compare detailed u true t).result = .error .tooManyDigits) := by
  obtain ⟨a, ha, hfitsA⟩ := exists_signedPayload ht hsig hfitsT
  obtain ⟨b, hb, hfitsB⟩ := exists_signedPayload hu htau hfitsU
  have hm := Payload.write_eq_ok_iff.2 ⟨hfitsA, rfl⟩
  have hn := Payload.write_eq_ok_iff.2 ⟨hfitsB, rfl⟩
  -- bodies and the numbers of signatures are what comparing sees, and what writing sees
  have hforms := Payload.signed_write_inj hm hn
  have hagree := equalFields_iff_numbers ha hb hsig htau hminimalSig hminimalTau
  refine ⟨_, _, (encode_observes.result t).trans ((signedForm_of_body ha hsig).trans hm),
    (encode_observes.result u).trans ((signedForm_of_body hb htau).trans hn), ?_, ?_⟩
  · rw [compare_eq_ok_true_iff, hagree, hforms]
  · intro hne
    exact compare_of_unequal fun h => hne (hforms.2 (hagree.1 h))

open scoped Stack.Usual

theorem compare_iff_encode_plainlySpelled :
    oddlySpelled.common.Complete ∧ plainlySpelled.common.Complete ∧
    oddlySpelled.signature? = some oddSignature ∧ plainlySpelled.signature? = some oddSignature ∧
    oddSignature.Minimal ∧ oddlySpelled.SignedFits ∧ plainlySpelled.SignedFits ∧
    oddlySpelled.common.chainId ≠ plainlySpelled.common.chainId ∧
    ∃ m, (encode oddlySpelled).result = .ok m ∧ (encode plainlySpelled).result = .ok m ∧
      (compare true plainlySpelled true oddlySpelled).result = .ok true := by
  have hminimal : oddSignature.Minimal := by decide
  have hequal : (compare true plainlySpelled true oddlySpelled).result = .ok true :=
    compare_of_equal true equalFields_plainlySpelled
  obtain ⟨m, n, hm, hn, hiff, _⟩ :=
    compare_iff_encode (t := oddlySpelled) (u := plainlySpelled) (by decide) (by decide) rfl rfl
      hminimal hminimal signedFits_oddlySpelled signedFits_plainlySpelled true
  obtain rfl := hiff.1 hequal
  exact ⟨by decide, by decide, rfl, rfl, hminimal, signedFits_oddlySpelled,
    signedFits_plainlySpelled, by decide, m, hm, hn, hequal⟩

end Transaction

end PlainTx
