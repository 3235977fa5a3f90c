/-
**Reading undoes writing.**

A transaction with a signature travels as its signed form.  Reading the form gives a transaction
that agrees with it in every field, however the fields were spelled; what is lost is the spelling,
the policy, and a chain id that the signature does not commit to.

Main results:

* `PlainTx.Transaction.equalFields_ofParts` — a transaction agrees with the one that is read;
* `PlainTx.Transaction.decode_encode` — **reading undoes writing**;
* `PlainTx.Transaction.compare_decoded_iff` — and zeros in front of a signature are all it loses.
-/

import PlainTx.Proofs.Comparison
import PlainTx.Proofs.Decoding
import PlainTx.Proofs.Size

set_option relaxedAutoImplicit false
set_option autoImplicit false

namespace PlainTx.Transaction

/-- A transaction agrees with the one that is read from its payload. -/
theorem equalFields_ofParts {t : Transaction} {body : Payload.Body} {sig : Signature}
    {recipient : Address} {p : Policy} (hbody : t.body = .ok body) (hsig : t.signature? = some sig)
    (hminimal : sig.Minimal) (hbytes : recipient.toBytes = body.recipient) :
    (ofParts p recipient body sig.v.toNat sig.r.toNat sig.s.toNat).equalFields t true = true := by
  obtain ⟨hnonce, hgasPrice, hgas, hrecipient, hvalue, hinput⟩ := body_eq_ok_iff.1 hbody
  refine equalFields_iff.2 ⟨?_, ?_, ?_, ?_, ?_, ?_, fun _ => signature_ofParts hsig hminimal⟩
  · rw [hnonce]
    exact congrArg some (Quantity.toNat_ofNat _)
  · rw [hgasPrice]
    exact congrArg some (Quantity.toNat_ofNat _)
  · rw [hgas]
    exact congrArg some (Quantity.toNat_ofNat _)
  · rw [hrecipient]
    exact hbytes
  · rw [hvalue]
    exact Quantity.toNat_ofNat _
  · exact hinput.symm

/-! ### Uncommon spellings -/

/-- The digit ten as a capital. -/
def capital : Hex.Digit := ⟨'A', rfl⟩

/-- The signature of `oddlySpelled`; it commits to chain one. -/
def oddSignature : Signature := ⟨[0x25], [0x80], []⟩

/-- A transaction whose fields are spelled in uncommon ways: zeros in front, capitals, no digits at
all for zero, and call data that is just too long for a short head.  Its signature commits to
another chain than its own. -/
def oddlySpelled : Transaction where
  recipient := ⟨.upper, List.replicate 20 capital ++ List.replicate 20 (Hex.lastDigit 0), rfl⟩
  value := ⟨.upper, []⟩
  input := List.replicate 56 0x80
  common :=
    { nonce := some ⟨.lower, [Hex.lastDigit 0, Hex.lastDigit 0, capital]⟩
      gasPrice := some ⟨.upper, [capital, Hex.lastDigit 0, capital]⟩
      gas := some ⟨.lower, [Hex.lastDigit 0]⟩
      chainId := some ⟨.lower, [capital]⟩ }
  slot := { Slot.forTransaction .reject with signature := some oddSignature }

/-- The body of `oddlySpelled`. -/
def oddBody : Payload.Body :=
  ⟨10, 0xA0A, 0, oddlySpelled.recipient.toBytes, 0, List.replicate 56 0x80⟩

theorem body_oddlySpelled : oddlySpelled.body = .ok oddBody := rfl

theorem ordinary_oddBody : oddBody.Ordinary :=
  ⟨by decide, by decide, by decide, rfl, by decide, by decide⟩

theorem signedFits_oddlySpelled : oddlySpelled.SignedFits := by
  have hsig : oddlySpelled.signature? = some oddSignature := rfl
  exact signedFits_of_ordinary body_oddlySpelled ordinary_oddBody hsig (by decide) (by decide)
    (by decide)

/-! ### Reading what was written -/

/-- **Reading undoes writing**, whatever the spellings, the policy and the chain id. -/
theorem decode_encode [Stack] {t : Transaction} {sig : Signature} (hcomplete : t.common.Complete)
    (hsig : t.signature? = some sig) (hminimal : sig.Minimal) (hfits : t.SignedFits)
    (setting : Option String) (p : Policy) (detailed : Bool) :
    ∃ form d, (encode t).result = .ok form ∧
      (get .signedText t).result = .ok (.text (Hex.text form)) ∧
      decodeWith setting (some p) (.bytes form) = .ok d ∧
      decodeWith setting (some p) (.text (Hex.text form)) = .ok d ∧
      (compare detailed t true d).result = .ok true ∧
      (compare detailed d true t).result = .ok true ∧
      d.input = t.input ∧ d.signature? = t.signature? ∧ (encode d).result = .ok form ∧
      d.common.chainId.map Quantity.toNat =
        if sig.v.toNat < 35 then none else some ((sig.v.toNat - 35) / 2) := by
  obtain ⟨body, hbody, hpayload⟩ := exists_signedPayload hcomplete hsig hfits
  obtain ⟨form, recipient, hform, hbytes, hagain, hread⟩ := decode_signedForm hbody hsig hpayload p
  have hdecode : ∀ x, inputBytes x = .ok form → decodeWith setting (some p) x = .ok _ := hread
  have hequal := equalFields_ofParts (p := p) hbody hsig hminimal hbytes
  have hinput : body.data = t.input := (body_eq_ok_iff.1 hbody).2.2.2.2.2.symm
  refine ⟨form, _, (encode_observes.result t).trans hform, ?_, hdecode _ rfl,
    hdecode _ (inputBytes_text _), compare_of_equal detailed hequal,
    compare_of_equal detailed (equalFields_comm _ t true ▸ hequal), hinput,
    signature_ofParts hsig hminimal, (encode_observes.result _).trans hagain, ?_⟩
  · rw [get_signedText, hform]
    rfl
  · rw [chainId_ofParts, RecoveryId.chain?_eq]

open scoped Stack.Usual

theorem decode_encode_oddlySpelled :
    oddlySpelled.common.Complete ∧ oddlySpelled.signature? = some oddSignature ∧
    oddSignature.Minimal ∧ oddlySpelled.SignedFits ∧
    ∃ form d, (encode oddlySpelled).result = .ok form ∧
      (get .signedText oddlySpelled).result = .ok (.text (Hex.text form)) ∧
      decodeWith none (some .replaceEmpty) (.bytes form) = .ok d ∧
      decodeWith none (some .replaceEmpty) (.text (Hex.text form)) = .ok d ∧
      (compare true oddlySpelled true d).result = .ok true ∧
      (compare true d true oddlySpelled).result = .ok true ∧
      d.input = oddlySpelled.input ∧ d.signature? = oddlySpelled.signature? ∧
      (encode d).result = .ok form ∧ d.common.chainId.map Quantity.toNat = some 1 := by
  have hsig : oddlySpelled.signature? = some oddSignature := rfl
  have hminimal : oddSignature.Minimal := by decide
  exact ⟨by decide, hsig, hminimal, signedFits_oddlySpelled,
    decode_encode (by decide) hsig hminimal signedFits_oddlySpelled none .replaceEmpty true⟩

/-- **What is lost on the way**: what is read back compares equal exactly if the signature has no
zeros in front. -/
theorem compare_decoded_iff [Stack] {t : Transaction} {sig : Signature}
    (hcomplete : t.common.Complete) (hsig : t.signature? = some sig) (hfits : t.SignedFits)
    (setting : Option String) (p : Policy) (detailed : Bool) :
    ∃ form d, (encode t).result = .ok form ∧
      decodeWith setting (some p) (.bytes form) = .ok d ∧
      ((compare detailed t true d).result = .ok true ↔ sig.Minimal) := by
  obtain ⟨body, hbody, hpayload⟩ := exists_signedPayload hcomplete hsig hfits
  obtain ⟨form, recipient, hform, hbytes, _, hread⟩ := decode_signedForm hbody hsig hpayload p
  refine ⟨form, _, (encode_observes.result t).trans hform, hread (.bytes form) rfl, ?_⟩
  rw [compare_eq_ok_true_iff]
  constructor
  · intro hequal
    -- the signature that is read is made of numbers
    have hsame : some (Signature.ofNumbers sig.v.toNat sig.r.toNat sig.s.toNat) = some sig :=
      ((equalFields_iff.1 hequal).2.2.2.2.2.2 rfl).trans hsig
    exact Option.some.inj hsame ▸ Signature.minimal_ofNumbers _ _ _
  · intro hminimal
    exact equalFields_ofParts hbody hsig hminimal hbytes

end PlainTx.Transaction
