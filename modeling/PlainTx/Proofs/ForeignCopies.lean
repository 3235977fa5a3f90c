/-
**Copies for other chains.**

The signed form does not carry a chain id, and comparing leaves it out.  So a copy that was signed
for another chain is a copy like any other, and combining attaches its signature.  Whether that
signature is for the chain of the transaction is found out when the message is asked for, which is
refused for a signature that commits to another chain.  Where the chains are the same, the message
is the signing form of the transaction, as it was before.

Main results:

* `PlainTx.Transaction.exists_copy_of_combine` — an attached signature comes from a copy, and the
  chain that it commits to is that of the copy;
* `PlainTx.Transaction.message_of_same_chain`, `PlainTx.Transaction.message_of_other_chain` — the
  message for an attached signature;
* `PlainTx.Transaction.message_of_combine` — **the message after combining**;
* `PlainTx.Transaction.combine_foreignCopy` — a signature for another chain that is attached.
-/

import PlainTx.Proofs.Combining
import PlainTx.Proofs.Printing

set_option relaxedAutoImplicit false
set_option autoImplicit false

namespace PlainTx.Transaction

variable {t : Transaction} {raws : List Value} {sig : Signature} {form : Bytes} {chain : Nat}
  {detailed : Bool}

/-! ### Where an attached signature comes from -/

/-- An attached signature comes from a copy, and the chain that it commits to is that of the
copy. -/
theorem exists_copy_of_combine [Stack] (hok : (combine detailed (.list raws) t).result = .ok form)
    (hsig : (combine detailed (.list raws) t).transaction.signature? = some sig)
    (hnew : t.signature? ≠ some sig) :
    (combine detailed (.list raws) t).transaction = t.holding sig ∧
      (t.holding sig).signedForm = .ok form ∧
      ∃ raw ∈ raws, ∃ copy, decode t.policy raw = .ok copy ∧ copy.signature? = some sig ∧
        copy.common.chainId.map Quantity.toNat = RecoveryId.chain? sig.v.toNat := by
  by_cases hcopies : t.AllCopies raws
  · obtain ⟨hform, hcases⟩ := (hok ▸ combined_of_copies detailed hcopies).of_ok
    rcases hcases with ⟨_, hkept⟩ | ⟨attached, hsigs, hholding⟩
    · rw [hkept] at hsig
      exact absurd hsig hnew
    · have hsame : attached = sig := by
        rw [hholding, holding_signature?] at hsig
        exact Option.some.inj hsig
      subst hsame
      obtain ⟨raw, hraw, copy, hcopy, hcarried⟩ :=
        mem_newSignatures_iff.1 (hsigs ▸ Finset.mem_singleton_self attached)
      have hcopySig := (newSignature?_eq_some_iff.1 hcarried).1
      exact ⟨hholding, hholding ▸ hform, raw, hraw, copy, hcopy, hcopySig,
        chainId_of_decode hcopy hcopySig⟩
  · obtain ⟨fault, hfault, _⟩ := combine_of_foreign detailed hcopies
    cases hok.symm.trans hfault

/-! ### The message for an attached signature -/

/-- A signature that commits to a chain is no placeholder. -/
theorem isPlaceholder_of_chain (h : RecoveryId.chain? sig.v.toNat = some chain) :
    sig.isPlaceholder = false := by
  refine beq_eq_false_iff_ne.2 fun hnumbers => ?_
  have hv : sig.v.toNat = 1 := congrArg Prod.fst hnumbers
  rw [hv] at h
  cases h

/-- For a signature of its chain, the message of a transaction that can be written is its signing
form, which it was before. -/
theorem message_of_same_chain [Stack] (hform : (t.holding sig).signedForm = .ok form)
    (hcommits : RecoveryId.chain? sig.v.toNat = some chain)
    (hchain : t.common.chainId.map Quantity.toNat = some chain) :
    ∃ m, (t.holding sig).message = .ok m ∧ (t.holding sig).signingForm = .ok m ∧
      t.signingForm = .ok m := by
  obtain ⟨body, held, hbody, hheld, hwrite⟩ := signedForm_eq_ok_iff.1 hform
  cases hheld
  -- the chain is no larger than the recovery id, so there is room for the message as well
  have hle : chain ≤ sig.v.toNat := by
    rw [RecoveryId.chain?_eq] at hcommits
    split at hcommits
    · cases hcommits
    · cases hcommits
      omega
  have hfits := Payload.fits_committing_of_signed (Payload.write_eq_ok_iff.1 hwrite).1 hle
  have hmessage := Payload.write_eq_ok_iff.2 ⟨hfits, rfl⟩
  refine ⟨_, ?_, signingForm_eq_ok_iff.2 ⟨body, chain, hbody, hchain, hmessage⟩,
    signingForm_eq_ok_iff.2 ⟨body, chain, hbody, hchain, hmessage⟩⟩
  rw [message_eq_messageFor (holding_signature? t sig) (isPlaceholder_of_chain hcommits)]
  refine messageFor_eq_ok_iff.2 ⟨?_, body, hbody, hcommits ▸ hmessage⟩
  intro own committed hown hcommitted
  rw [show t.common.chainId = some own from hown] at hchain
  exact Option.some.inj (hchain.trans (hcommits.symm.trans hcommitted))

/-- For a signature of another chain, the message is refused. -/
theorem message_of_other_chain [Stack] {own : Quantity} (hown : t.common.chainId = some own)
    (hcommits : RecoveryId.chain? sig.v.toNat = some chain) (hne : own.toNat ≠ chain) :
    (t.holding sig).message = .error (.ofForeignChain chain own.toNat) := by
  rw [message_eq_messageFor (holding_signature? t sig) (isPlaceholder_of_chain hcommits)]
  exact messageFor_of_foreign hown hcommits hne

/-! ### The message after combining -/

/-- **The message after combining.**  The attached signature commits to the chain of the copy that
it comes from.  If that is the chain of the transaction, which it is when all copies are for that
chain, the message is the signing form, as before.  If it is another one, there is no message, and
the fault names both chains, unless one of them has too many digits to be written. -/
theorem message_of_combine [Stack] {c : Action.Trace Bytes} {own : Quantity}
    (hc : combine detailed (.list raws) t = c) (hown : t.common.chainId = some own)
    (hok : c.result = .ok form) (hsig : c.transaction.signature? = some sig)
    (hnew : t.signature? ≠ some sig) (hcommits : 35 ≤ sig.v.toNat) :
    RecoveryId.chain? sig.v.toNat = some ((sig.v.toNat - 35) / 2) ∧
    (∃ raw ∈ raws, ∃ copy, decode t.policy raw = .ok copy ∧ copy.signature? = some sig ∧
      copy.common.chainId.map Quantity.toNat = some ((sig.v.toNat - 35) / 2)) ∧
    ((∀ raw ∈ raws, ∀ copy, decode t.policy raw = .ok copy →
        copy.common.chainId.map Quantity.toNat = some own.toNat) →
      (sig.v.toNat - 35) / 2 = own.toNat) ∧
    ((sig.v.toNat - 35) / 2 = own.toNat →
      ∃ m, (messageForSigning c.transaction).result = .ok m ∧
        (encodeForSigning c.transaction).result = .ok m ∧ (encodeForSigning t).result = .ok m) ∧
    ((sig.v.toNat - 35) / 2 ≠ own.toNat →
      (messageForSigning c.transaction).result = .error (
        if (sig.v.toNat - 35) / 2 < Decimal.powTen Decimal.digitLimit ∧
            own.toNat < Decimal.powTen Decimal.digitLimit then
          .foreignChain ((sig.v.toNat - 35) / 2) own.toNat
        else .tooManyDigits)) := by
  subst hc
  have hchain : RecoveryId.chain? sig.v.toNat = some ((sig.v.toNat - 35) / 2) := by
    rw [RecoveryId.chain?_eq, if_neg (Nat.not_lt.2 hcommits)]
  obtain ⟨hholding, hform, raw, hraw, copy, hcopy, hcopySig, hcopyChain⟩ :=
    exists_copy_of_combine hok hsig hnew
  rw [hchain] at hcopyChain
  rw [hholding]
  simp only [messageForSigning_observes.result, encodeForSigning_observes.result]
  refine ⟨hchain, ⟨raw, hraw, copy, hcopy, hcopySig, hcopyChain⟩, ?_, ?_, ?_⟩
  · intro hall
    exact Option.some.inj (hcopyChain.symm.trans (hall raw hraw copy hcopy))
  · intro hsame
    refine message_of_same_chain hform hchain ?_
    rw [hown, hsame]
    rfl
  · intro hother
    rw [message_of_other_chain hown hchain (Ne.symm hother), Fault.ofForeignChain_eq]

open scoped Stack.Usual

theorem message_of_combine_unsignedTransfer :
    unsignedTransfer.common.chainId = some ⟨.upper, [Hex.lastDigit 0, Hex.lastDigit 1]⟩ ∧
    unsignedTransfer.signature? ≠ some committed ∧ 35 ≤ committed.v.toNat ∧
    ∃ raw form c, combine false (.list [raw]) unsignedTransfer = c ∧ c.result = .ok form ∧
      c.transaction.signature? = some committed ∧
      ∃ m, (messageForSigning c.transaction).result = .ok m ∧
        (encodeForSigning unsignedTransfer).result = .ok m := by
  obtain ⟨form, copy, _, hnew, hcopy⟩ := exists_copy_unsignedTransfer
  have havailable := Slot.available_iff.2 available_unsignedTransfer
  have hcopies : ∀ raw ∈ [Value.bytes form], unsignedTransfer.IsCopy raw copy := by
    intro raw hraw
    cases List.mem_singleton.1 hraw
    exact hcopy _ rfl
  obtain ⟨form', hok, hholding⟩ :=
    combine_of_same false (List.cons_ne_nil _ _) hcopies hnew havailable
  have hsig : (combine false (.list [.bytes form]) unsignedTransfer).transaction.signature? =
      some committed := by rw [hholding, holding_signature?]
  have hother : unsignedTransfer.signature? ≠ some committed := by decide
  have hcommits : 35 ≤ committed.v.toNat := by decide
  obtain ⟨_, _, _, hsame, _⟩ := message_of_combine rfl rfl hok hsig hother hcommits
  obtain ⟨m, hm, _, hbefore⟩ := hsame rfl
  exact ⟨rfl, hother, hcommits, .bytes form, form', _, rfl, hok, hsig, m, hm, hbefore⟩

/-! ### A signature for another chain -/

/-- A transfer on chain one that is not signed yet. -/
def ownTransfer : Transaction where
  recipient := ⟨.lower, Hex.ofBytes (List.replicate 20 0xFF), rfl⟩
  value := .ofNat 3
  input := []
  common :=
    { nonce := some (.ofNat 0)
      gasPrice := some (.ofNat 1)
      gas := some (.ofNat 2)
      chainId := some (.ofNat 1) }
  slot := .forTransaction .replaceEmpty

/-- The same transfer with a signature for chain two. -/
def foreignCopy : Bytes :=
  [0xDD, 0x80, 0x01, 0x02, 0x94] ++ List.replicate 20 0xFF ++ [0x03, 0x80, 0x27, 0x05, 0x06]

/-- The signature for chain two. -/
def foreignSignature : Signature := .ofNumbers 39 5 6

theorem isCopy_foreignCopy [Stack] :
    ∃ copy, ownTransfer.IsCopy (.bytes foreignCopy) copy ∧
      ownTransfer.newSignature? copy = some foreignSignature := by
  have hlen : bodyForNonce.recipient.length = Format.addressSize := List.length_replicate
  obtain ⟨recipient, hrecipient, hbytes⟩ := Address.exists_ofBytes? hlen
  have hitems : Rlp.decode foreignCopy = .ok (.list (List.map Rlp.Item.bytes
      [[], [1], [2], List.replicate 20 0xFF, [3], [], [39], [5], [6]])) :=
    Rlp.decode_eq_ok_iff.2 ⟨by decide, by decide, Stack.two_le_reading⟩
  have hread : Payload.decodeSigned foreignCopy = .ok (bodyForNonce, 39, 5, 6) :=
    Payload.decodeSigned_eq_ok.2 ⟨_, hitems, rfl⟩
  have hbody : ownTransfer.body = .ok bodyForNonce :=
    body_eq_ok_iff.2 ⟨congrArg some (Quantity.toNat_ofNat _),
      congrArg some (Quantity.toNat_ofNat _), congrArg some (Quantity.toNat_ofNat _), by decide,
      Quantity.toNat_ofNat _, rfl⟩
  refine ⟨ofParts .replaceEmpty recipient bodyForNonce 39 5 6, ⟨?_, ?_⟩, ?_⟩
  · exact decode_eq_ok_iff.2 ⟨_, _, _, _, _, recipient, rfl, hread, hrecipient, rfl⟩
  · exact (equalFields_iff_body (body_ofParts hbytes)).2
      ⟨hbody, fun h => absurd h Bool.false_ne_true⟩
  · refine newSignature?_eq_some_iff.2 ⟨rfl, ?_, fun h => by cases h⟩
    rw [foreignSignature, Signature.numbers_ofNumbers]
    decide

/-- **A signature for another chain is attached**: combining succeeds, and afterwards there is no
message for the transaction. -/
theorem combine_foreignCopy :
    ∃ form c, combine false (.list [.bytes foreignCopy]) ownTransfer = c ∧
      ownTransfer.AllCopies [.bytes foreignCopy] ∧ c.result = .ok form ∧
      ownTransfer.signature? = none ∧ c.transaction.signature? = some foreignSignature ∧
      35 ≤ foreignSignature.v.toNat ∧ RecoveryId.chain? foreignSignature.v.toNat = some 2 ∧
      c.transaction.common.chainId.map Quantity.toNat = some 1 ∧
      (messageForSigning c.transaction).result = .error (.foreignChain 2 1) := by
  obtain ⟨copy, hcopy, hnew⟩ := isCopy_foreignCopy
  have hcopies : ∀ raw ∈ [Value.bytes foreignCopy], ownTransfer.IsCopy raw copy := by
    intro raw hraw
    cases List.mem_singleton.1 hraw
    exact hcopy
  obtain ⟨form, hok, hholding⟩ :=
    combine_of_same false (List.cons_ne_nil _ _) hcopies hnew rfl
  have hv : foreignSignature.v.toNat = 39 := Bytes.toNat_ofNat 39
  have hchain : RecoveryId.chain? foreignSignature.v.toNat = some 2 := by
    rw [hv]
    rfl
  have hone : (Quantity.ofNat 1).toNat = 1 := Quantity.toNat_ofNat 1
  have hmessage : (ownTransfer.holding foreignSignature).message = .error (.ofForeignChain 2 1) :=
    hone ▸ message_of_other_chain (t := ownTransfer) rfl hchain (by rw [hone]; decide)
  have hshort : Fault.ofForeignChain 2 1 = .foreignChain 2 1 := if_pos (by decide +kernel)
  refine ⟨form, _, rfl, fun raw hraw => ⟨copy, hcopies raw hraw⟩, hok, rfl, ?_, ?_, hchain, ?_, ?_⟩
  · rw [hholding, holding_signature?]
  · rw [hv]
    decide
  · rw [hholding]
    exact congrArg some hone
  · rw [hholding, messageForSigning_observes.result, hmessage, hshort]

end PlainTx.Transaction
