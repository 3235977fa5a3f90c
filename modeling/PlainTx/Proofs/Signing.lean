/-
**Signing and recovering the signer.**

A signer commits to the signing form, which carries the chain id of the transaction.  Whoever
recovers the signer builds the message from the signature instead: the recovery id tells the chain.
This module proves that both arrive at the same message, before and after the transaction has
travelled, for every scheme that is lawful; and that a signature that was made fills its slot for
good.

Main definitions:

* `PlainTx.Transaction.SignedBy` — a transaction is for a chain, and its signature leads through a
  message to an address.

Main results:

* `PlainTx.Transaction.signedBy_of_body` — when a signature leads to the address of its key;
* `PlainTx.Transaction.sign_recover` — **signing, and then recovering the signer**.
-/

import PlainTx.Proofs.Decoding
import PlainTx.Proofs.Operations
import PlainTx.Proofs.Size

set_option relaxedAutoImplicit false
set_option autoImplicit false

namespace PlainTx

/-! ### Recovery ids of a chain -/

theorem RecoveryId.thirtyFive_le_ofChain (chain parity : Nat) : 35 ≤ ofChain chain parity :=
  Nat.le_add_left _ _

namespace Transaction

variable {Key : Type} {scheme : Scheme Key} {key : Key} {chain : Nat} {form : Bytes}

theorem signatureFor_v : (signatureFor scheme key chain form).v.toNat =
    RecoveryId.ofChain chain (scheme.sign key form).1 :=
  Bytes.toNat_ofNat _

theorem signatureFor_r :
    (signatureFor scheme key chain form).r.toNat = (scheme.sign key form).2.1 :=
  Bytes.toNat_ofNat _

theorem signatureFor_s :
    (signatureFor scheme key chain form).s.toNat = (scheme.sign key form).2.2 :=
  Bytes.toNat_ofNat _

/-- A signature that was made is no placeholder. -/
theorem isPlaceholder_signatureFor :
    (signatureFor scheme key chain form).isPlaceholder = false := by
  rw [Signature.isPlaceholder, Signature.numbers, signatureFor_v, beq_eq_false_iff_ne]
  intro h
  -- the recovery id of a placeholder is one
  have hv := congrArg Prod.fst h
  have hle := RecoveryId.thirtyFive_le_ofChain chain (scheme.sign key form).1
  simp only at hv
  omega

/-! ### Recovering the signer -/

/-- The transaction is for the chain, and its signature leads through the message to the address. -/
structure SignedBy [Stack] (scheme : Scheme Key) (chain : Nat) (form : Bytes) (address : String)
    (t : Transaction) : Prop where
  chainId : t.common.chainId.map Quantity.toNat = some chain
  message : (messageForSigning t).result = .ok form
  sender : (recoverSender scheme t).result = .ok address

/-- **The signature of a key for the message of a body leads to the address of the key**, in every
transaction with that body and that chain. -/
theorem signedBy_of_body [Stack] (hlawful : scheme.Lawful) {t : Transaction} {body : Payload.Body}
    (hbody : t.body = .ok body) (hchain : t.common.chainId.map Quantity.toNat = some chain)
    (hform : (Payload.committing body (some chain)).write = .ok form)
    (hsig : t.signature? = some (signatureFor scheme key chain form)) :
    SignedBy scheme chain form (scheme.address key) t := by
  obtain ⟨hparity, hrecover⟩ := hlawful key form
  -- the message is found through the recovery id, which has to agree with the chain id
  have hmessage : t.message = .ok form := by
    rw [message_eq_messageFor hsig isPlaceholder_signatureFor, signatureFor_v,
      messageFor_eq_ok_iff, RecoveryId.chain?_ofChain _ _ hparity]
    refine ⟨?_, body, hbody, hform⟩
    rintro own _ hown ⟨⟩
    rw [hown] at hchain
    exact Option.some.inj hchain
  refine ⟨hchain, (messageForSigning_observes.result t).trans hmessage, ?_⟩
  rw [(recoverSender_observes scheme).result, sender, hsig]
  simp only [Signature.numbers, signatureFor_v, signatureFor_r, signatureFor_s,
    RecoveryId.parity?_ofChain _ _ hparity, hmessage, Result.ok_bind, hrecover, Result.mapError_ok]

/-- The transaction that is read from the signed form of one with such a signature. -/
theorem exists_decode_signedBy [Stack] (hlawful : scheme.Lawful) {t : Transaction}
    {body : Payload.Body} (hbody : t.body = .ok body)
    (hform : (Payload.committing body (some chain)).write = .ok form)
    (hsig : t.signature? = some (signatureFor scheme key chain form)) (hfits : t.SignedFits)
    (p : Policy) :
    ∃ wire d, t.signedForm = .ok wire ∧ decode p (.bytes wire) = .ok d ∧
      SignedBy scheme chain form (scheme.address key) d := by
  obtain ⟨_, hbody', hpayload⟩ := exists_signedPayload (exists_body_iff.1 ⟨body, hbody⟩) hsig hfits
  cases hbody.symm.trans hbody'
  obtain ⟨wire, recipient, hwire, hbytes, _, hread⟩ := decode_signedForm hbody hsig hpayload p
  have hparity := (hlawful key form).1
  refine ⟨wire, _, hwire, hread _ rfl, signedBy_of_body hlawful (body_ofParts hbytes) ?_ hform ?_⟩
  · rw [chainId_ofParts, signatureFor_v, RecoveryId.chain?_ofChain _ _ hparity]
  · exact (signature_ofParts hsig (Signature.minimal_ofNumbers _ _ _)).trans hsig

/-! ### Signing -/

/-- The signing form of a transaction that can be written. -/
theorem exists_signingForm [Stack] {t : Transaction} (hcomplete : t.common.Complete)
    (hchain : t.common.chainId.map Quantity.toNat = some chain) (hfits : t.SigningFits) :
    ∃ body form, t.body = .ok body ∧ (Payload.committing body (some chain)).write = .ok form ∧
      t.signingForm = .ok form := by
  obtain ⟨body, hbody⟩ := exists_body_iff.2 hcomplete
  have hpayload : t.signingPayload = .ok (Payload.committing body (some chain)) := by
    rw [signingPayload, number_eq_ok_iff.2 hchain, Result.ok_bind, payloadForChain, hbody]
    rfl
  have hwrite := Payload.write_eq_ok_iff.2 ⟨hfits _ hpayload, rfl⟩
  exact ⟨body, _, hbody, hwrite, (signingForm_of_body hbody hchain).trans hwrite⟩

theorem occupied_of_signatureFor {t : Transaction}
    (hsig : t.signature? = some (signatureFor scheme key chain form)) :
    t.slot.available = false := by
  have hslot : t.slot.signature = some (signatureFor scheme key chain form) := hsig
  rw [Slot.available, hslot, Option.all_some, Policy.allowsReplacing, isPlaceholder_signatureFor,
    Bool.and_false]

/-! ### One key and one message -/

/-- The parity and the two scalars of one signature on the curve. -/
def onlySignature : Nat × Nat × Nat :=
  (0, 0x28EF61340BD939BC2195FE537567866003E1A15D3C71FF63E1590620AA636276,
    0x67CBE9D8997F761AECB703304B3800CCF555C9F3DC64214B297FB1966A3B6D83)

/-- A scheme with one key, the one whose bytes are all `0x46`; it signs `unsignedTransfer` as the
key does on the curve, and recovers no other signature. -/
def oneKey : Scheme Unit where
  sign _ _ := onlySignature
  recover parity r s _ :=
    if (parity, r, s) = onlySignature then .ok "0x9d8A62f656a8d1615C1294fd71e9CFb3E4855A4F"
    else .error .noPoint
  address _ := "0x9d8A62f656a8d1615C1294fd71e9CFb3E4855A4F"

theorem lawful_oneKey : oneKey.Lawful := by
  intro key message
  have hsign : oneKey.sign key message = onlySignature := rfl
  rw [hsign]
  exact ⟨by decide, rfl⟩

/-- A transaction of chain one with a placeholder that has a zero in front. -/
def unsignedTransfer : Transaction where
  recipient := ⟨.lower, (List.replicate 20 [Hex.lastDigit 3, Hex.lastDigit 5]).flatten, rfl⟩
  value := .ofNat 1000000000000000000
  input := []
  common :=
    { nonce := some ⟨.lower, [Hex.lastDigit 0, Hex.lastDigit 0, Hex.lastDigit 9]⟩
      gasPrice := some (.ofNat 20000000000)
      gas := some (.ofNat 21000)
      chainId := some ⟨.upper, [Hex.lastDigit 0, Hex.lastDigit 1]⟩ }
  slot := { Slot.forTransaction .replaceEmpty with signature := some ⟨[0, 1], [0], [0]⟩ }

/-- The body of `unsignedTransfer`. -/
def transferBody : Payload.Body :=
  ⟨9, 20000000000, 21000, List.replicate 20 0x35, 1000000000000000000, []⟩

theorem body_unsignedTransfer : unsignedTransfer.body = .ok transferBody :=
  body_eq_ok_iff.2 ⟨by decide, congrArg some (Quantity.toNat_ofNat _),
    congrArg some (Quantity.toNat_ofNat _), by decide, Quantity.toNat_ofNat _, rfl⟩

theorem ordinary_transferBody : transferBody.Ordinary :=
  ⟨by decide, by decide, by decide, rfl, by decide, by decide⟩

theorem chainId_unsignedTransfer :
    unsignedTransfer.common.chainId.map Quantity.toNat = some 1 := rfl

theorem signingFits_unsignedTransfer : unsignedTransfer.SigningFits :=
  signingFits_of_ordinary body_unsignedTransfer ordinary_transferBody chainId_unsignedTransfer
    (by decide)

theorem signedFits_unsignedTransfer (form : Bytes) :
    (unsignedTransfer.holding (signatureFor oneKey () 1 form)).SignedFits := by
  refine signedFits_of_ordinary body_unsignedTransfer ordinary_transferBody rfl ?_ ?_ ?_
  · rw [signatureFor_v]
    exact (by decide : RecoveryId.ofChain 1 onlySignature.1 < 256 ^ 32)
  · rw [signatureFor_r]
    exact (by decide : onlySignature.2.1 < 256 ^ 32)
  · rw [signatureFor_s]
    exact (by decide : onlySignature.2.2 < 256 ^ 32)

theorem available_unsignedTransfer (held : Signature)
    (h : unsignedTransfer.signature? = some held) :
    unsignedTransfer.policy = .replaceEmpty ∧ held.numbers = (1, 0, 0) := by
  cases h
  exact ⟨rfl, by decide⟩

/-! ### Signing, and then recovering the signer -/

/-- **Signing, and then recovering the signer.** -/
theorem sign_recover [Stack] (hlawful : scheme.Lawful) (key : Key) {t : Transaction}
    {chain : Quantity} (hcomplete : t.common.Complete) (hchain : t.common.chainId = some chain)
    (havailable : ∀ held, t.signature? = some held →
      t.policy = .replaceEmpty ∧ held.numbers = (1, 0, 0))
    (hfits : t.SigningFits) :
    ∃ form sig, (encodeForSigning t).result = .ok form ∧ (sign scheme key t).result = .ok sig ∧
      (sign scheme key t).transaction = t.holding sig ∧ (t.holding sig).signatures = [sig] ∧
      RecoveryId.chain? sig.v.toNat = some chain.toNat ∧
      RecoveryId.parity? sig.v.toNat = some (scheme.sign key form).1 ∧
      SignedBy scheme chain.toNat form (scheme.address key) (t.holding sig) ∧
      ((t.holding sig).SignedFits → ∀ setting p, ∃ wire d,
        (encode (t.holding sig)).result = .ok wire ∧
        decodeWith setting (some p) (.bytes wire) = .ok d ∧
        (Policy.ofSetting setting = .ok p → decodeWith setting none (.bytes wire) = .ok d) ∧
        SignedBy scheme chain.toNat form (scheme.address key) d) ∧
      (∀ (Other : Type) (other : Scheme Other) (otherKey : Other),
        sign other otherKey (t.holding sig) =
          ⟨.error (.occupied t.slot.owner), t.holding sig, []⟩) ∧
      ∀ x sigs, Signature.readAll x = .ok sigs →
        append x (t.holding sig) = ⟨.error (.occupied t.slot.owner), t.holding sig, []⟩ := by
  have hnumber : t.common.chainId.map Quantity.toNat = some chain.toNat := by
    rw [hchain]
    rfl
  obtain ⟨body, form, hbody, hwrite, hform⟩ := exists_signingForm hcomplete hnumber hfits
  have hslot : t.slot.available = true := Slot.available_iff.2 havailable
  obtain ⟨hresult, hholding⟩ := sign_of_available hslot hform hnumber
  have hparity := (hlawful key form).1
  have hsig : (t.holding (signatureFor scheme key chain.toNat form)).signature? =
      some (signatureFor scheme key chain.toNat form) := holding_signature? t _
  have hbody' : (t.holding (signatureFor scheme key chain.toNat form)).body = .ok body :=
    (body_holding t _).trans hbody
  have hoccupied := occupied_of_signatureFor hsig
  refine ⟨form, _, (encodeForSigning_observes.result t).trans hform, hresult, hholding, rfl, ?_, ?_,
    signedBy_of_body hlawful hbody' hnumber hwrite hsig, ?_, ?_, ?_⟩
  · rw [signatureFor_v, RecoveryId.chain?_ofChain _ _ hparity]
  · rw [signatureFor_v, RecoveryId.parity?_ofChain _ _ hparity]
  · intro hfits' setting p
    obtain ⟨wire, d, hwire, hread, hsigned⟩ :=
      exists_decode_signedBy hlawful hbody' hwrite hsig hfits' p
    refine ⟨wire, d, (encode_observes.result _).trans hwire, hread, ?_, hsigned⟩
    intro hsetting
    rw [decodeWith, Policy.choose, hsetting]
    exact hread
  · intro Other other otherKey
    exact sign_of_occupied hoccupied
  · intro x sigs hx
    exact append_of_occupied hoccupied hx

open scoped Stack.Usual

theorem sign_recover_unsignedTransfer :
    oneKey.Lawful ∧ unsignedTransfer.common.Complete ∧
    unsignedTransfer.common.chainId = some ⟨.upper, [Hex.lastDigit 0, Hex.lastDigit 1]⟩ ∧
    (∀ held, unsignedTransfer.signature? = some held →
      unsignedTransfer.policy = .replaceEmpty ∧ held.numbers = (1, 0, 0)) ∧
    unsignedTransfer.SigningFits ∧
    ∃ form sig, (encodeForSigning unsignedTransfer).result = .ok form ∧
      (sign oneKey () unsignedTransfer).result = .ok sig ∧
      (sign oneKey () unsignedTransfer).transaction = unsignedTransfer.holding sig ∧
      RecoveryId.chain? sig.v.toNat = some 1 ∧
      SignedBy oneKey 1 form "0x9d8A62f656a8d1615C1294fd71e9CFb3E4855A4F"
        (unsignedTransfer.holding sig) ∧
      ∃ wire d, (encode (unsignedTransfer.holding sig)).result = .ok wire ∧
        decodeWith none (some .reject) (.bytes wire) = .ok d ∧
        SignedBy oneKey 1 form "0x9d8A62f656a8d1615C1294fd71e9CFb3E4855A4F" d := by
  have hcomplete : unsignedTransfer.common.Complete := by decide
  have hchain : unsignedTransfer.common.chainId =
      some ⟨.upper, [Hex.lastDigit 0, Hex.lastDigit 1]⟩ := rfl
  obtain ⟨form, sig, hform, hsig, hholding, _, hcommits, _, hsigned, htravel, _⟩ :=
    sign_recover lawful_oneKey () hcomplete hchain available_unsignedTransfer
      signingFits_unsignedTransfer
  have hmade : sig = signatureFor oneKey () 1 form := by
    have hslot := Slot.available_iff.2 available_unsignedTransfer
    have hsigningForm := (encodeForSigning_observes.result _).symm.trans hform
    have hresult : (sign oneKey () unsignedTransfer).result =
        .ok (signatureFor oneKey () 1 form) :=
      (sign_of_available hslot hsigningForm chainId_unsignedTransfer).1
    exact Except.ok.inj (hsig.symm.trans hresult)
  have hfits : (unsignedTransfer.holding sig).SignedFits :=
    hmade ▸ signedFits_unsignedTransfer form
  obtain ⟨wire, d, hwire, hread, _, hagain⟩ := htravel hfits none .reject
  exact ⟨lawful_oneKey, hcomplete, hchain, available_unsignedTransfer,
    signingFits_unsignedTransfer, form, sig, hform, hsig, hholding, hcommits, hsigned, wire, d,
    hwire, hread, hagain⟩

end Transaction

end PlainTx
