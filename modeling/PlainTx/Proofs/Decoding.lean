/-
**What a signed form is read as.**

A transaction that is read has all common fields but perhaps the chain id, and it holds the
signature of the form with minimal components.  Its signed form is the payload that was read, in the
one way it is written.

Main definitions:

* `PlainTx.Transaction.ofParts` — the transaction of a recipient, a body and the numbers of a
  signature.

Main results:

* `PlainTx.Transaction.decode_eq_ok_iff` — **the transactions that are read**;
* `PlainTx.Transaction.chainId_of_decode` — their chain is the one the recovery id commits to;
* `PlainTx.Transaction.signedForm_ofParts` — the signed form of a transaction that is read;
* `PlainTx.Transaction.decode_signedForm` — **the signed form is read back**.
-/

import PlainTx.Proofs.Forms
import PlainTx.Proofs.Slots
import PlainTx.Proofs.Spelling
import PlainTx.Proofs.Wire.Payload
import PlainTx.Transaction.Decoding

set_option relaxedAutoImplicit false
set_option autoImplicit false

namespace PlainTx.Transaction

/-- The transaction of a recipient, the other fields of a body, and the numbers of a signature. -/
def ofParts (policy : Policy) (recipient : Address) (body : Payload.Body) (v r s : Nat) :
    Transaction where
  recipient := recipient
  value := .ofNat body.value
  input := body.data
  common :=
    { nonce := some (.ofNat body.nonce)
      gasPrice := some (.ofNat body.gasPrice)
      gas := some (.ofNat body.gas)
      chainId := (RecoveryId.chain? v).map .ofNat }
  slot := { Slot.forTransaction policy with signature := some (.ofNumbers v r s) }

theorem chainId_ofParts {policy : Policy} {recipient : Address} {body : Payload.Body}
    {v r s : Nat} :
    (ofParts policy recipient body v r s).common.chainId.map Quantity.toNat =
      RecoveryId.chain? v := by
  simp only [ofParts, Option.map_map]
  cases RecoveryId.chain? v with
  | none => rfl
  | some chain => exact congrArg some (Quantity.toNat_ofNat chain)

/-! ### Reading -/

theorem ofPayload_eq_ok_iff [Stack] {policy : Policy} {body : Payload.Body} {v r s : Nat}
    {t : Transaction} :
    ofPayload policy body v r s = .ok t ↔
      ∃ recipient, Address.ofBytes? body.recipient = some recipient ∧
        t = ofParts policy recipient body v r s := by
  rw [ofPayload]
  cases hrecipient : Address.ofBytes? body.recipient with
  | none =>
      constructor
      · intro h
        cases h
      · rintro ⟨_, h, _⟩
        cases h
  | some recipient =>
      -- the slot of a new transaction is empty
      simp only [attach_signature (t := ⟨_, _, _, _, .forTransaction policy⟩) rfl, Result.ok_bind,
        Result.pure_eq_ok, Except.ok.injEq, Option.some.injEq, exists_eq_left']
      exact eq_comm

/-- **The transactions that are read.** -/
theorem decode_eq_ok_iff [Stack] {policy : Policy} {x : Value} {t : Transaction} :
    decode policy x = .ok t ↔
      ∃ b body v r s recipient, inputBytes x = .ok b ∧
        Payload.decodeSigned b = .ok (body, v, r, s) ∧
        Address.ofBytes? body.recipient = some recipient ∧
        t = ofParts policy recipient body v r s := by
  simp only [decode, Result.mapError_eq_ok, read, Result.bind_eq_ok, ofPayload_eq_ok_iff]
  constructor
  · rintro ⟨b, hb, ⟨body, v, r, s⟩, hread, recipient, hrecipient, ht⟩
    exact ⟨b, body, v, r, s, recipient, hb, hread, hrecipient, ht⟩
  · rintro ⟨b, body, v, r, s, recipient, hb, hread, hrecipient, ht⟩
    exact ⟨b, hb, ⟨body, v, r, s⟩, hread, recipient, hrecipient, ht⟩

/-- The chain of a transaction that was read is the one that its recovery id commits to. -/
theorem chainId_of_decode [Stack] {policy : Policy} {x : Value} {t : Transaction} {sig : Signature}
    (h : decode policy x = .ok t) (hsig : t.signature? = some sig) :
    t.common.chainId.map Quantity.toNat = RecoveryId.chain? sig.v.toNat := by
  obtain ⟨_, body, v, r, s, recipient, _, _, _, rfl⟩ := decode_eq_ok_iff.1 h
  cases hsig
  rw [chainId_ofParts, Signature.ofNumbers, Bytes.toNat_ofNat]

/-- Whatever chooses the policy chooses it without looking at the input. -/
theorem exists_policy_of_decodeWith [Stack] {setting : Option String} {policy : Option Policy}
    {x : Value} {t : Transaction} (h : decodeWith setting policy x = .ok t) :
    ∃ p, ∀ y, decodeWith setting policy y = decode p y := by
  obtain ⟨p, hp, _⟩ := Result.bind_eq_ok.1 h
  refine ⟨p, fun y => ?_⟩
  rw [decodeWith, hp]
  rfl

theorem inputBytes_text (b : Bytes) : inputBytes (.text (Hex.text b)) = .ok b := by
  rw [inputBytes, Hex.decode_text]
  rfl

/-! ### Writing what was read -/

section Parts

variable {policy : Policy} {recipient : Address} {body : Payload.Body} {v r s : Nat}

/-- A signature without zeros in front travels as it is. -/
theorem signature_ofParts {t : Transaction} {sig : Signature} (hsig : t.signature? = some sig)
    (hminimal : sig.Minimal) :
    (ofParts policy recipient body sig.v.toNat sig.r.toNat sig.s.toNat).signature? =
      t.signature? := by
  rw [hsig]
  exact congrArg some (Signature.ofNumbers_numbers hminimal)

theorem body_ofParts (h : recipient.toBytes = body.recipient) :
    (ofParts policy recipient body v r s).body = .ok body :=
  body_eq_ok_iff.2 ⟨by simp [ofParts], by simp [ofParts], by simp [ofParts], h,
    by simp [ofParts], rfl⟩

/-- The signed form of a transaction that was read is the payload that was read. -/
theorem signedForm_ofParts [Stack] (h : recipient.toBytes = body.recipient) :
    (ofParts policy recipient body v r s).signedForm = (Payload.signed body v r s).write := by
  have hsig : (ofParts policy recipient body v r s).signature? = some (.ofNumbers v r s) := rfl
  rw [signedForm_of_body (body_ofParts h) hsig, Signature.ofNumbers, Bytes.toNat_ofNat,
    Bytes.toNat_ofNat, Bytes.toNat_ofNat]

end Parts

/-- **The signed form is read back** as the transaction of the payload it is written for. -/
theorem decode_signedForm [Stack] {t : Transaction} {body : Payload.Body} {sig : Signature}
    (hbody : t.body = .ok body) (hsig : t.signature? = some sig)
    (hfits : (Payload.signed body sig.v.toNat sig.r.toNat sig.s.toNat).fits = true)
    (p : Policy) :
    ∃ form recipient, t.signedForm = .ok form ∧ recipient.toBytes = body.recipient ∧
      (ofParts p recipient body sig.v.toNat sig.r.toNat sig.s.toNat).signedForm = .ok form ∧
      ∀ x, inputBytes x = .ok form →
        decode p x = .ok (ofParts p recipient body sig.v.toNat sig.r.toNat sig.s.toNat) := by
  have hlen : body.recipient.length = Format.addressSize := by
    obtain ⟨_, _, _, hrecipient, _⟩ := body_eq_ok_iff.1 hbody
    rw [← hrecipient, Address.length_toBytes]
  -- the recipient is read back, though not in the spelling it had
  obtain ⟨recipient, hofBytes, hbytes⟩ := Address.exists_ofBytes? hlen
  have hwrite := Payload.write_eq_ok_iff.2 ⟨hfits, rfl⟩
  have hread := Payload.decodeSigned_encode hfits hlen
  refine ⟨_, recipient, (signedForm_of_body hbody hsig).trans hwrite, hbytes,
    (signedForm_ofParts hbytes).trans hwrite, fun x hx => ?_⟩
  exact decode_eq_ok_iff.2 ⟨_, body, _, _, _, recipient, hx, hread, hofBytes, rfl⟩

end PlainTx.Transaction
