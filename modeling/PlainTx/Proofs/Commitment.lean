/-
**What the message binds.**

The message of a transaction is that of one of two schemes.  The newer one commits to a chain: the
one of the transaction while there is no real signature, and the one in the recovery id after that.
The older one commits to no chain.  This module proves that two transactions have the same message
exactly if they have the same six fields and the same commitment, so that a signature is good for
nothing but what was signed, and that the two schemes have no message in common.

Main definitions:

* `PlainTx.Transaction.commitment` — the chain that the message of a transaction commits to.

Main results:

* `PlainTx.Payload.committing_items_injective` — the items of a message tell its body and its
  commitment;
* `PlainTx.Transaction.message_eq_ok` — the message of a transaction is that of its commitment;
* `PlainTx.Transaction.messages_eq_iff` — **the message binds every field and the commitment**.
-/

import PlainTx.Proofs.Signing

set_option relaxedAutoImplicit false
set_option autoImplicit false

namespace PlainTx

/-! ### Payloads of messages -/

/-- **The items of a message tell its body and its commitment.** -/
theorem Payload.committing_items_injective {a b : Payload.Body} {c d : Option Nat}
    (h : (committing a c).items = (committing b d).items) : a = b ∧ c = d := by
  have hlength : ∀ body : Payload.Body, body.items.length = 6 := fun _ => rfl
  -- the six items of the body come first, and only a commitment has three more behind them
  cases c with
  | none =>
      cases d with
      | none => exact ⟨Body.items_injective h, rfl⟩
      | some chain =>
          have hlen := congrArg List.length h
          simp only [committing, items, List.length_append, hlength] at hlen
          cases hlen
  | some chain =>
      cases d with
      | none =>
          have hlen := congrArg List.length h
          simp only [committing, items, List.length_append, hlength] at hlen
          cases hlen
      | some chain' =>
          obtain ⟨hbody, htail⟩ := List.append_inj h (by rw [hlength, hlength])
          obtain ⟨hchain, _⟩ := List.cons.inj htail
          exact ⟨Body.items_injective hbody, congrArg some (numberItem_injective hchain)⟩

/-- Messages that can be written are the same exactly if their bodies and commitments are. -/
theorem Payload.committing_write_inj {a b : Payload.Body} {c d : Option Nat} {m n : Bytes}
    (hm : (committing a c).write = .ok m) (hn : (committing b d).write = .ok n) :
    m = n ↔ a = b ∧ c = d := by
  obtain ⟨hfitsM, rfl⟩ := write_eq_ok_iff.1 hm
  obtain ⟨hfitsN, rfl⟩ := write_eq_ok_iff.1 hn
  constructor
  · intro h
    exact committing_items_injective (encode_injective hfitsM hfitsN h)
  · rintro ⟨rfl, rfl⟩
    rfl

namespace Transaction

/-! ### The commitment of a transaction -/

/-- The chain that the message of a transaction commits to: while there is no signature but a
placeholder, the one of the transaction; after that, the one that the recovery id stands for in the
newer scheme, and none in the older one. -/
def commitment (t : Transaction) : Option Nat :=
  match t.signature? with
  | none => t.common.chainId.map Quantity.toNat
  | some sig =>
    if sig.isPlaceholder then t.common.chainId.map Quantity.toNat
    else if sig.v.toNat < 35 then none
    else some ((sig.v.toNat - 35) / 2)

theorem commitment_of_placeholder {t : Transaction}
    (h : ∀ sig, t.signature? = some sig → sig.isPlaceholder = true) :
    t.commitment = t.common.chainId.map Quantity.toNat := by
  rw [commitment]
  cases hsig : t.signature? with
  | none => rfl
  | some sig => exact if_pos (h sig hsig)

theorem commitment_of_real {t : Transaction} {sig : Signature} (hsig : t.signature? = some sig)
    (h : sig.isPlaceholder = false) : t.commitment = RecoveryId.chain? sig.v.toNat := by
  rw [commitment, hsig, RecoveryId.chain?_eq]
  exact if_neg (by simp [h])

/-- **The message of a transaction is the one of its body and its commitment.** -/
theorem message_eq_ok [Stack] {t : Transaction} {m : Bytes} (h : t.message = .ok m) :
    ∃ body, t.body = .ok body ∧ (Payload.committing body t.commitment).write = .ok m := by
  by_cases hreal : ∃ sig, t.signature? = some sig ∧ sig.isPlaceholder = false
  · obtain ⟨sig, hsig, hsome⟩ := hreal
    rw [message_eq_messageFor hsig hsome] at h
    rw [commitment_of_real hsig hsome]
    exact (messageFor_eq_ok_iff.1 h).2
  · -- without a real signature the message is the signing form
    have hplaceholder : ∀ sig, t.signature? = some sig → sig.isPlaceholder = true := by
      intro sig hsig
      cases hsome : sig.isPlaceholder with
      | true => rfl
      | false => exact absurd ⟨sig, hsig, hsome⟩ hreal
    rw [message_eq_signingForm hplaceholder] at h
    obtain ⟨body, chain, hbody, hchain, hwrite⟩ := signingForm_eq_ok_iff.1 h
    rw [commitment_of_placeholder hplaceholder, hchain]
    exact ⟨body, hbody, hwrite⟩

/-- The bodies of two transactions are the same exactly if their fields mean the same. -/
theorem body_inj {t u : Transaction} {a b : Payload.Body} (ht : t.body = .ok a)
    (hu : u.body = .ok b) :
    a = b ↔ t.common.nonce.map Quantity.toNat = u.common.nonce.map Quantity.toNat ∧
      t.common.gasPrice.map Quantity.toNat = u.common.gasPrice.map Quantity.toNat ∧
      t.common.gas.map Quantity.toNat = u.common.gas.map Quantity.toNat ∧
      t.recipient.toBytes = u.recipient.toBytes ∧ t.value.toNat = u.value.toNat ∧
      t.input = u.input := by
  obtain ⟨hn, hp, hg, hr, hv, hd⟩ := body_eq_ok_iff.1 ht
  obtain ⟨hn', hp', hg', hr', hv', hd'⟩ := body_eq_ok_iff.1 hu
  rw [hn, hp, hg, hr, hv, hd, hn', hp', hg', hr', hv', hd']
  obtain ⟨nonce, gasPrice, gas, recipient, value, data⟩ := a
  obtain ⟨nonce', gasPrice', gas', recipient', value', data'⟩ := b
  simp only [Payload.Body.mk.injEq, Option.some.injEq]

/-! ### One body, three commitments -/

/-- A signature in the newer scheme, for chain one. -/
def committed : Signature := ⟨[0x25], [1], [1]⟩

/-- A signature in the older scheme. -/
def uncommitted : Signature := ⟨[0x1B], [1], [1]⟩

theorem exists_message_unsignedTransfer [Stack] :
    ∃ m, (messageForSigning unsignedTransfer).result = .ok m := by
  obtain ⟨_, form, _, _, hform⟩ := exists_signingForm (by decide) chainId_unsignedTransfer
    signingFits_unsignedTransfer
  refine ⟨form, ?_⟩
  rw [messageForSigning_observes.result, message_eq_signingForm, hform]
  rintro _ ⟨⟩
  decide

theorem exists_message_holding [Stack] {sig : Signature} (hreal : sig.isPlaceholder = false)
    (hchain : ∀ chain, RecoveryId.chain? sig.v.toNat = some chain → chain = 1) :
    ∃ m, (messageForSigning (unsignedTransfer.holding sig)).result = .ok m := by
  have hfits : (Payload.committing transferBody (RecoveryId.chain? sig.v.toNat)).fits = true := by
    refine Payload.fits_committing ordinary_transferBody ?_
    intro chain h
    rw [hchain chain h]
    decide
  have hagree : ∀ own chain, (unsignedTransfer.holding sig).common.chainId = some own →
      RecoveryId.chain? sig.v.toNat = some chain → own.toNat = chain := by
    rintro _ chain ⟨⟩ h
    rw [hchain chain h]
    rfl
  have hwrite := Payload.write_eq_ok_iff.2 ⟨hfits, rfl⟩
  have hmessage := messageFor_eq_ok_iff.2 ⟨hagree, transferBody, body_unsignedTransfer, hwrite⟩
  exact ⟨_, (messageForSigning_observes.result _).trans
    ((message_eq_messageFor rfl hreal).trans hmessage)⟩

/-! ### What the message binds -/

/-- **The message binds every field and the commitment.** -/
theorem messages_eq_iff [Stack] {t u : Transaction} {m n : Bytes}
    (ht : (messageForSigning t).result = .ok m) (hu : (messageForSigning u).result = .ok n) :
    m = n ↔
      (t.common.nonce.map Quantity.toNat = u.common.nonce.map Quantity.toNat ∧
        t.common.gasPrice.map Quantity.toNat = u.common.gasPrice.map Quantity.toNat ∧
        t.common.gas.map Quantity.toNat = u.common.gas.map Quantity.toNat ∧
        t.recipient.toBytes = u.recipient.toBytes ∧ t.value.toNat = u.value.toNat ∧
        t.input = u.input) ∧
      t.commitment = u.commitment := by
  rw [messageForSigning_observes.result] at ht hu
  obtain ⟨a, ha, hm⟩ := message_eq_ok ht
  obtain ⟨b, hb, hn⟩ := message_eq_ok hu
  rw [Payload.committing_write_inj hm hn, body_inj ha hb]

open scoped Stack.Usual

theorem messages_eq_iff_unsignedTransfer :
    ∃ m n k, (messageForSigning unsignedTransfer).result = .ok m ∧
      (messageForSigning (unsignedTransfer.holding committed)).result = .ok n ∧
      (messageForSigning (unsignedTransfer.holding uncommitted)).result = .ok k ∧
      m = n ∧ m ≠ k := by
  obtain ⟨m, hm⟩ := exists_message_unsignedTransfer
  obtain ⟨n, hn⟩ := exists_message_holding (rfl : committed.isPlaceholder = false)
    (by decide)
  obtain ⟨k, hk⟩ := exists_message_holding (rfl : uncommitted.isPlaceholder = false)
    (by decide)
  refine ⟨m, n, k, hm, hn, hk, ?_, ?_⟩
  · exact (messages_eq_iff hm hn).2 ⟨⟨rfl, rfl, rfl, rfl, rfl, rfl⟩, by decide⟩
  · intro h
    exact absurd ((messages_eq_iff hm hk).1 h).2 (by decide)

end Transaction

end PlainTx
