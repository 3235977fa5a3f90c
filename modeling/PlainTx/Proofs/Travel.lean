/-
**A signature on the wire.**

A signed transaction that has a message can be written, and what is read back has the same message,
although its chain id may be gone, or be there only now: the message is found through the recovery
id, and the chain that this commits to is no other than the one of the transaction.  The signer is
recovered from the parity, the two scalars and the message, so it is the same on both sides as well,
and so is the fault if there is no signer.  The fault is a refusal of the signature, unless the
recovery reports a scalar that is too long to be written into the wording of a refusal.

Main definitions:

* `PlainTx.Fault.isRefusal` — a fault refuses a signature;
* `PlainTx.Transaction.recovered` — the signer for the numbers of a signature and a message.

Main results:

* `PlainTx.RecoveryId.parity?_eq` — the parity of a recovery id, in numbers;
* `PlainTx.Transaction.sender_of_message` — **who the signer is**;
* `PlainTx.Transaction.message_ofParts` — **the message of what is read back**;
* `PlainTx.Transaction.isRefusal_of_recovered_iff` — when a signature is refused;
* `PlainTx.Transaction.message_sender_of_travel` — **message and signer survive the wire**;
* `PlainTx.Transaction.sender_longTransfer` — a signature that is not refused, but has no signer.
-/

import PlainTx.Proofs.ForeignCopies

set_option relaxedAutoImplicit false
set_option autoImplicit false

namespace PlainTx

/-- The parity of a recovery id, in numbers. -/
theorem RecoveryId.parity?_eq (v : Nat) :
    parity? v = if 35 ≤ v then some ((v - 35) % 2)
      else if v = 27 ∨ v = 28 then some (v - 27) else none := by
  have hoffset : commits v = true ↔ 35 ≤ v := decide_eq_true_iff
  simp only [parity?, hoffset]
  rfl

/-- The fault refuses a signature: its recovery id belongs to no scheme, or no public key can be
recovered from it. -/
def Fault.isRefusal : Fault → Bool
  | .unsupportedRecoveryId _ => true
  | .badSignature _ => true
  | _ => false

/-- A scalar that is too long to be written cannot be reported. -/
theorem Fault.ofRejection_of_long {n : Nat} (h : Decimal.writable n = false) :
    ofRejection (.scalarTooLarge n) = .wrongValue := by
  rw [ofRejection, if_neg (by simp [h])]

/-- A rejection is a refusal, unless it reports a scalar that is too long to be written. -/
theorem Fault.isRefusal_ofRejection_iff {why : Ecdsa.Rejection} :
    (ofRejection why).isRefusal = true ↔
      ∀ n : Nat, why = .scalarTooLarge n → Decimal.writable n = true := by
  cases why with
  | scalarTooLarge n =>
      rw [ofRejection]
      constructor
      · rintro h _ ⟨⟩
        by_contra hlong
        rw [if_neg hlong] at h
        cases h
      · intro h
        rw [if_pos (h n rfl)]
        rfl
  | noPoint => exact ⟨fun _ => nofun, fun _ => rfl⟩
  | infinity => exact ⟨fun _ => nofun, fun _ => rfl⟩

namespace Transaction

variable {Key : Type} {t : Transaction} {sig : Signature} {body : Payload.Body} {m : Bytes}

/-! ### The signer -/

/-- The signer for the three numbers of a signature and a message. -/
def recovered (scheme : Scheme Key) (v r s : Nat) (m : Bytes) : Except Fault String :=
  match RecoveryId.parity? v with
  | none => .error (.unsupportedRecoveryId (.int v))
  | some parity => (scheme.recover parity r s m).mapError .ofRejection

/-- The signer by the recovery id: in the newer scheme, in the older one, or in none. -/
theorem recovered_eq (scheme : Scheme Key) (v r s : Nat) (m : Bytes) :
    recovered scheme v r s m =
      if 35 ≤ v then (scheme.recover ((v - 35) % 2) r s m).mapError .ofRejection
      else if v = 27 ∨ v = 28 then (scheme.recover (v - 27) r s m).mapError .ofRejection
      else .error (.unsupportedRecoveryId (.int v)) := by
  rw [recovered, RecoveryId.parity?_eq]
  by_cases hnew : 35 ≤ v
  · simp only [if_pos hnew]
  · by_cases hold : v = 27 ∨ v = 28
    · simp only [if_neg hnew, if_pos hold]
    · simp only [if_neg hnew, if_neg hold]

/-- **Who the signer is** depends on nothing but the numbers of the signature and the message. -/
theorem sender_of_message [Stack] (scheme : Scheme Key) (hsig : t.signature? = some sig)
    (hmessage : t.message = .ok m) :
    t.sender scheme = recovered scheme sig.v.toNat sig.r.toNat sig.s.toNat m := by
  rw [sender, hsig, recovered]
  cases hparity : RecoveryId.parity? sig.v.toNat with
  | none => simp only [Signature.numbers, hparity]
  | some parity => simp only [Signature.numbers, hparity, hmessage, Result.ok_bind]

/-- A signature is refused, unless its scalar is reported and is too long to be written. -/
theorem isRefusal_of_recovered_iff {scheme : Scheme Key} {v r s : Nat} {fault : Fault}
    (h : recovered scheme v r s m = .error fault) :
    fault.isRefusal = true ↔ ∀ parity n : Nat, RecoveryId.parity? v = some parity →
      scheme.recover parity r s m = .error (.scalarTooLarge n) → Decimal.writable n = true := by
  rw [recovered] at h
  cases hparity : RecoveryId.parity? v with
  | none =>
      rw [hparity] at h
      cases h
      exact ⟨fun _ => nofun, fun _ => rfl⟩
  | some parity =>
      rw [hparity] at h
      obtain ⟨why, hwhy, rfl⟩ := Result.mapError_eq_error.1 h
      rw [Fault.isRefusal_ofRejection_iff]
      constructor
      · rintro hwritable _ n ⟨⟩ hn
        exact hwritable n (Except.error.inj (hwhy.symm.trans hn))
      · rintro hwritable n rfl
        exact hwritable parity n rfl hwhy

/-! ### The message -/

/-- A signature that is no placeholder by its numbers is none. -/
theorem isPlaceholder_of_numbers (h : sig.numbers ≠ (1, 0, 0)) : sig.isPlaceholder = false :=
  beq_eq_false_iff_ne.2 h

/-- **The message of what is read back**, for a body and a recovery id that have one: the chain of
what is read is the one that the recovery id commits to, so that the two never disagree. -/
theorem message_ofParts [Stack] {p : Policy} {recipient : Address} {v r s : Nat}
    (hbytes : recipient.toBytes = body.recipient) (hreal : (v, r, s) ≠ (1, 0, 0))
    (hwrite : (Payload.committing body (RecoveryId.chain? v)).write = .ok m) :
    (ofParts p recipient body v r s).message = .ok m := by
  have hsig : (ofParts p recipient body v r s).signature? = some (.ofNumbers v r s) := rfl
  have hplaceholder : (Signature.ofNumbers v r s).isPlaceholder = false :=
    isPlaceholder_of_numbers (by rwa [Signature.numbers_ofNumbers])
  have hv : (Signature.ofNumbers v r s).v.toNat = v := Bytes.toNat_ofNat v
  rw [message_eq_messageFor hsig hplaceholder, hv]
  refine messageFor_eq_ok_iff.2 ⟨?_, body, body_ofParts hbytes, hwrite⟩
  intro own chain hown hchain
  have hsame : (ofParts p recipient body v r s).common.chainId.map Quantity.toNat = some chain :=
    chainId_ofParts.trans hchain
  rw [hown] at hsame
  exact Option.some.inj hsame

/-! ### On the wire -/

/-- **Message and signer survive the wire.**  A transaction that holds a real signature and has a
message can be written; what is read back, from bytes or from their text, has the same message; and
recovering the signer of either comes to the same, for every scheme: to what the scheme finds for
the parity, the scalars and the message.  The fault, if there is one, refuses the signature, unless
the scheme reports a scalar that is too long to be written. -/
theorem message_sender_of_travel [Stack] (hsig : t.signature? = some sig)
    (hreal : sig.numbers ≠ (1, 0, 0)) (hmessage : (messageForSigning t).result = .ok m)
    (hfits : t.SignedFits) (setting : Option String) (p : Policy) :
    ∃ wire d, (encode t).result = .ok wire ∧
      decodeWith setting (some p) (.bytes wire) = .ok d ∧
      decodeWith setting (some p) (.text (Hex.text wire)) = .ok d ∧
      (Policy.ofSetting setting = .ok p → decodeWith setting none (.bytes wire) = .ok d) ∧
      (messageForSigning d).result = .ok m ∧
      ∀ (Key : Type) (scheme : Scheme Key),
        (recoverSender scheme d).result = (recoverSender scheme t).result ∧
        (recoverSender scheme t).result =
          (if 35 ≤ sig.v.toNat then
            (scheme.recover ((sig.v.toNat - 35) % 2) sig.r.toNat sig.s.toNat m).mapError
              .ofRejection
          else if sig.v.toNat = 27 ∨ sig.v.toNat = 28 then
            (scheme.recover (sig.v.toNat - 27) sig.r.toNat sig.s.toNat m).mapError .ofRejection
          else .error (.unsupportedRecoveryId (.int sig.v.toNat))) ∧
        ∀ fault, (recoverSender scheme t).result = .error fault →
          (fault.isRefusal = true ↔ ∀ parity n : Nat,
            RecoveryId.parity? sig.v.toNat = some parity →
            scheme.recover parity sig.r.toNat sig.s.toNat m = .error (.scalarTooLarge n) →
            Decimal.writable n = true) := by
  rw [messageForSigning_observes.result] at hmessage
  have hplaceholder := isPlaceholder_of_numbers hreal
  have hfor := (message_eq_messageFor hsig hplaceholder).symm.trans hmessage
  obtain ⟨_, body, hbody, hwrite⟩ := messageFor_eq_ok_iff.1 hfor
  obtain ⟨_, hbody', hpayload⟩ := exists_signedPayload (exists_body_iff.1 ⟨body, hbody⟩) hsig hfits
  cases hbody.symm.trans hbody'
  obtain ⟨wire, recipient, hwire, hbytes, _, hread⟩ := decode_signedForm hbody hsig hpayload p
  have hmessage' : (ofParts p recipient body sig.v.toNat sig.r.toNat sig.s.toNat).message = .ok m :=
    message_ofParts hbytes hreal hwrite
  have hsig' : (ofParts p recipient body sig.v.toNat sig.r.toNat sig.s.toNat).signature? =
    some (.ofNumbers sig.v.toNat sig.r.toNat sig.s.toNat) := rfl
  refine ⟨wire, _, (encode_observes.result t).trans hwire, hread _ rfl, hread _ (inputBytes_text _),
    ?_, (messageForSigning_observes.result _).trans hmessage', fun Key scheme => ?_⟩
  · intro hsetting
    rw [decodeWith, Policy.choose, hsetting]
    exact hread _ rfl
  · rw [(recoverSender_observes scheme).result, (recoverSender_observes scheme).result,
      sender_of_message scheme hsig hmessage, sender_of_message scheme hsig' hmessage',
      Signature.ofNumbers, Bytes.toNat_ofNat, Bytes.toNat_ofNat, Bytes.toNat_ofNat]
    exact ⟨rfl, recovered_eq scheme _ _ _ m, fun fault h => isRefusal_of_recovered_iff h⟩

open scoped Stack.Usual

theorem message_sender_of_travel_committed :
    (unsignedTransfer.holding committed).signature? = some committed ∧
    committed.numbers ≠ (1, 0, 0) ∧ (unsignedTransfer.holding committed).SignedFits ∧
    ∃ m wire d, (messageForSigning (unsignedTransfer.holding committed)).result = .ok m ∧
      (encode (unsignedTransfer.holding committed)).result = .ok wire ∧
      decodeWith none (some .reject) (.bytes wire) = .ok d ∧
      (messageForSigning d).result = .ok m ∧
      (recoverSender oneKey d).result =
        (recoverSender oneKey (unsignedTransfer.holding committed)).result := by
  have hreal : committed.numbers ≠ (1, 0, 0) := by decide
  have hfits : (unsignedTransfer.holding committed).SignedFits :=
    signedFits_of_ordinary body_unsignedTransfer ordinary_transferBody rfl (by decide) (by decide)
      (by decide)
  obtain ⟨m, hmessage⟩ := exists_message_holding (isPlaceholder_of_numbers hreal) (by decide)
  obtain ⟨wire, d, hwire, hread, _, _, hagain, hsender⟩ :=
    message_sender_of_travel rfl hreal hmessage hfits none .reject
  exact ⟨rfl, hreal, hfits, m, wire, d, hmessage, hwire, hread, hagain, (hsender Unit oneKey).1⟩

/-! ### A scalar that is too long -/

/-- A signature in the older scheme whose first scalar has 1801 bytes. -/
def longSignature : Signature := ⟨[0x1B], 0x01 :: List.replicate 1800 0x00, [0x01]⟩

/-- The first scalar is too long to be written. -/
theorem not_writable_longSignature : Decimal.writable longSignature.r.toNat = false := by
  decide +kernel

theorem signedFits_longSignature : (unsignedTransfer.holding longSignature).SignedFits := by
  -- the scalar is long, but there is room for much longer strings
  have hlength : ∀ b : Bytes, b.length ≤ 256 ^ 7 → (Bytes.ofNat b.toNat).length ≤ 256 ^ 7 :=
    fun b hb => Nat.le_trans (Bytes.length_ofNat_le b.toNat_lt_pow) hb
  have hr : longSignature.r.length = 1801 := by
    rw [longSignature, List.length_cons, List.length_replicate]
  have htail : ∀ x ∈ [Bytes.ofNat longSignature.v.toNat, .ofNat longSignature.r.toNat,
      .ofNat longSignature.s.toNat], x.length ≤ 256 ^ 7 := by
    simp only [List.forall_mem_cons]
    exact ⟨hlength _ (by decide), hlength _ (by rw [hr]; decide), hlength _ (by decide),
      by simp⟩
  intro p hp
  rw [signedPayload, holding_signature?, body_holding, body_unsignedTransfer] at hp
  cases hp
  refine Payload.fits_of_strings fun x hx => ?_
  rcases List.mem_append.1 hx with hx | hx
  · exact ordinary_transferBody.strings x hx
  · exact htail x hx

/-- The curve reports a scalar that is not below its order. -/
theorem recover_of_order_le {parity r s : Nat} (h : Secp256k1.order ≤ r) (m : Bytes) :
    Scheme.secp256k1.recover parity r s m = .error (.scalarTooLarge r) := by
  have hrecover : Ecdsa.recover parity r s m = .error (.scalarTooLarge r) := by
    rw [Ecdsa.recover, Ecdsa.recoverHash, if_pos h]
  exact congrArg (Except.map Account.ofPublicKey) hrecover

/-- **A signature that is not refused, but has no signer**: there is a message, and the form can be
written, but the wording of the refusal cannot. -/
theorem sender_longTransfer :
    (append (.signature longSignature) unsignedTransfer).transaction =
      unsignedTransfer.holding longSignature ∧
    longSignature.numbers ≠ (1, 0, 0) ∧ (unsignedTransfer.holding longSignature).SignedFits ∧
    (∃ m, (messageForSigning (unsignedTransfer.holding longSignature)).result = .ok m) ∧
    (recoverSender .secp256k1 (unsignedTransfer.holding longSignature)).result =
      .error .wrongValue ∧
    Fault.wrongValue.isRefusal = false := by
  have havailable := Slot.available_iff.2 available_unsignedTransfer
  have hreal : longSignature.isPlaceholder = false := by decide +kernel
  have horder : Secp256k1.order ≤ longSignature.r.toNat := by decide +kernel
  obtain ⟨m, hmessage⟩ := exists_message_holding hreal (by decide)
  have hm : (unsignedTransfer.holding longSignature).message = .ok m :=
    (messageForSigning_observes.result _).symm.trans hmessage
  refine ⟨?_, beq_eq_false_iff_ne.1 hreal, signedFits_longSignature, ⟨m, hmessage⟩, ?_, rfl⟩
  · rw [append_of_attach (attach_signature havailable longSignature)]
  · rw [(recoverSender_observes _).result, sender_of_message _ (holding_signature? _ _) hm,
      recovered_eq]
    have hv : longSignature.v.toNat = 27 := rfl
    rw [hv, if_neg (by decide), if_pos (.inl rfl), recover_of_order_le horder]
    exact congrArg Except.error (Fault.ofRejection_of_long not_writable_longSignature)

end Transaction

end PlainTx
