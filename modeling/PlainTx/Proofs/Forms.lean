/-
**When a transaction can be written.**

The recipient and the value of a transaction always pass the check that comes before writing: their
types hold nothing that could fail it.  So the check only asks which of the common fields are set,
and the body of the payload has nothing left to refuse.  This module states that for the check, for
the body and for both forms.

Main definitions:

* `PlainTx.CommonFields.Complete` — the fields that writing needs are set;
* `PlainTx.Transaction.SignedFits`, `PlainTx.Transaction.SigningFits` — what is written in a form is
  short enough to be written;
* `PlainTx.Payload.committing` — the payload of the message that commits to a chain, or to none.

Main results:

* `PlainTx.Transaction.check_eq_ok_iff` — the check passes exactly if the fields are set;
* `PlainTx.Transaction.body_eq_ok_iff` — the body of a transaction;
* `PlainTx.Transaction.signedForm_eq_ok_iff`, `PlainTx.Transaction.signingForm_eq_ok_iff` — **when
  a form can be written, and what it is**;
* `PlainTx.Transaction.messageFor_eq_ok_iff` — the message a recovery id commits to.
-/

import PlainTx.Proofs.Slots
import PlainTx.Transaction.Encoding

set_option relaxedAutoImplicit false
set_option autoImplicit false

namespace PlainTx

/-! ### Checks that always pass -/

theorem Quantity.isSome_scan_text (q : Quantity) : (Hex.scan q.text.toList).isSome = true := by
  have h := congrArg Option.isSome (ofText?_text q)
  rwa [ofText?, Option.isSome_map, Option.isSome_some] at h

/-- The text of an address is not that of the empty one. -/
theorem Address.text_ne_emptyAddress (a : Address) : a.text ≠ Format.emptyAddress := by
  intro h
  have hread := ofText?_text a
  rw [h, ofText?] at hread
  simp [Format.emptyAddress, Hex.scan, Hex.splitMarker, Hex.digits?, Format.addressSize] at hread

namespace Check

theorem quantity_value [Stack] (title : String) (q : Quantity) :
    quantity title q.value = .ok () := by
  simp only [quantity, Quantity.value, present, Result.ok_bind, hexText,
    if_pos q.isSome_scan_text]

/-- A field passes exactly if it is set. -/
theorem quantity_optionalValue [Stack] (title : String) (q : Option Quantity) :
    quantity title (Quantity.optionalValue q) =
      if q.isSome = true then .ok () else .error (.missing title) := by
  cases q with
  | none => rfl
  | some q => exact quantity_value title q

theorem recipient_text [Stack] (title : String) (a : Address) :
    recipient title (.text a.text) = .ok () := by
  have haddress : address title (.text a.text) = .ok () := by
    rw [address, if_pos (.inr (by rw [Address.ofText?_text]; rfl))]
  simp only [recipient, present, haddress, Result.ok_bind, if_neg a.text_ne_emptyAddress]

end Check

/-- A payload is written as its encoding, if that is short enough. -/
theorem Payload.write_eq_ok_iff {p : Payload} {b : Bytes} :
    p.write = .ok b ↔ p.fits = true ∧ p.encode = b := by
  rw [write]
  split <;> simp [*]

/-- The chain a recovery id commits to, in numbers. -/
theorem RecoveryId.chain?_eq (v : Nat) :
    chain? v = if v < 35 then none else some ((v - 35) / 2) := by
  by_cases h : v < 35
  · rw [chain?, commits, decide_eq_false (by simpa [Format.chainOffset] using h), if_pos h]
    rfl
  · rw [chain?, commits, decide_eq_true (by simpa [Format.chainOffset] using h), if_neg h]
    rfl

/-- The payload of the message that commits to a chain, or to none. -/
def Payload.committing (body : Payload.Body) : Option Nat → Payload
  | none => .unsigned body
  | some chain => .signing body chain 0 0

/-! ### The check before writing -/

/-- The fields that writing needs are set. -/
def CommonFields.Complete (c : CommonFields) : Prop :=
  c.nonce.isSome = true ∧ c.gasPrice.isSome = true ∧ c.gas.isSome = true

instance (c : CommonFields) : Decidable c.Complete := inferInstanceAs (Decidable (_ ∧ _))

namespace Transaction

/-- The check only looks at the common fields. -/
theorem check_eq [Stack] (t : Transaction) (forSigning : Bool) :
    t.check forSigning = t.common.values.check forSigning := by
  rw [check, Check.recipient_text, Check.quantity_value]
  rfl

/-- **The check passes exactly if the fields that are needed are set.** -/
theorem check_eq_ok_iff [Stack] {t : Transaction} {forSigning : Bool} :
    t.check forSigning = .ok () ↔
      t.common.Complete ∧ (forSigning = true → t.common.chainId.isSome = true) := by
  have hset : ∀ {title : String} {q : Option Quantity} {u : Unit},
      (if q.isSome = true then .ok () else .error (.missing title) : Except Fault Unit) = .ok u ↔
        q.isSome = true := by
    intro title q u
    cases q with
    | none => simp
    | some q => simp
  rw [check_eq, CommonValues.check]
  simp only [CommonFields.values, Check.quantity_optionalValue, Result.bind_eq_ok, hset,
    CommonFields.Complete]
  cases forSigning with
  | false => simp [and_assoc, and_comm]
  | true => simp [hset, and_assoc, and_left_comm]

theorem number_eq_ok_iff {title : String} {q : Option Quantity} {n : Nat} :
    number title q = .ok n ↔ q.map Quantity.toNat = some n := by
  cases q with
  | none => simp [number]
  | some q => simp [number]

/-- **The body of a transaction.** -/
theorem body_eq_ok_iff {t : Transaction} {body : Payload.Body} :
    t.body = .ok body ↔
      t.common.nonce.map Quantity.toNat = some body.nonce ∧
      t.common.gasPrice.map Quantity.toNat = some body.gasPrice ∧
      t.common.gas.map Quantity.toNat = some body.gas ∧
      t.recipient.toBytes = body.recipient ∧ t.value.toNat = body.value ∧ t.input = body.data := by
  simp only [Transaction.body, Result.bind_eq_ok, Result.pure_eq_ok, number_eq_ok_iff]
  constructor
  · rintro ⟨_, hn, _, hp, _, hg, h⟩
    cases h
    exact ⟨hn, hp, hg, rfl, rfl, rfl⟩
  · rintro ⟨hn, hp, hg, hr, hv, hd⟩
    exact ⟨_, hn, _, hp, _, hg, by rw [hr, hv, hd]⟩

/-- The signature has no part in the body. -/
theorem body_holding (t : Transaction) (sig : Signature) : (t.holding sig).body = t.body := rfl

theorem exists_body_iff {t : Transaction} : (∃ body, t.body = .ok body) ↔ t.common.Complete := by
  simp only [body_eq_ok_iff, CommonFields.Complete, Option.isSome_iff_exists]
  constructor
  · rintro ⟨_, hn, hp, hg, _⟩
    obtain ⟨q, hq, _⟩ := Option.map_eq_some_iff.1 hn
    obtain ⟨q', hq', _⟩ := Option.map_eq_some_iff.1 hp
    obtain ⟨q'', hq'', _⟩ := Option.map_eq_some_iff.1 hg
    exact ⟨⟨q, hq⟩, ⟨q', hq'⟩, ⟨q'', hq''⟩⟩
  · rintro ⟨⟨n, hn⟩, ⟨p, hp⟩, ⟨g, hg⟩⟩
    refine ⟨⟨n.toNat, p.toNat, g.toNat, _, _, _⟩, ?_, ?_, ?_, rfl, rfl, rfl⟩
    · rw [hn]; rfl
    · rw [hp]; rfl
    · rw [hg]; rfl

/-! ### The forms -/

/-- The signed form is short enough to be written. -/
def SignedFits (t : Transaction) : Prop := ∀ p, t.signedPayload = .ok p → p.fits = true

/-- The signing form is short enough to be written. -/
def SigningFits (t : Transaction) : Prop := ∀ p, t.signingPayload = .ok p → p.fits = true

theorem signedForm_of_body [Stack] {t : Transaction} {body : Payload.Body} {sig : Signature}
    (hbody : t.body = .ok body) (hsig : t.signature? = some sig) :
    t.signedForm = (Payload.signed body sig.v.toNat sig.r.toNat sig.s.toNat).write := by
  have hcheck : t.check false = .ok () :=
    check_eq_ok_iff.2 ⟨exists_body_iff.1 ⟨body, hbody⟩, by simp⟩
  rw [signedForm, hcheck, signedPayload, hsig, hbody]
  rfl

/-- **The signed form**: the body and the numbers of the signature, if they are short enough. -/
theorem signedForm_eq_ok_iff [Stack] {t : Transaction} {form : Bytes} :
    t.signedForm = .ok form ↔
      ∃ body sig, t.body = .ok body ∧ t.signature? = some sig ∧
        (Payload.signed body sig.v.toNat sig.r.toNat sig.s.toNat).write = .ok form := by
  constructor
  · intro h
    simp only [signedForm, Result.bind_eq_ok] at h
    obtain ⟨_, hcheck, p, hp, hwrite⟩ := h
    obtain ⟨body, hbody⟩ := exists_body_iff.2 (check_eq_ok_iff.1 hcheck).1
    cases hsig : t.signature? with
    | none =>
        rw [signedPayload, hsig] at hp
        cases hp
    | some sig =>
        rw [signedPayload, hsig, hbody] at hp
        cases hp
        exact ⟨body, sig, hbody, rfl, hwrite⟩
  · rintro ⟨body, sig, hbody, hsig, hwrite⟩
    rw [signedForm_of_body hbody hsig, hwrite]

/-- The payload of a transaction that can be written. -/
theorem exists_signedPayload {t : Transaction} {sig : Signature} (hcomplete : t.common.Complete)
    (hsig : t.signature? = some sig) (hfits : t.SignedFits) :
    ∃ body, t.body = .ok body ∧
      (Payload.signed body sig.v.toNat sig.r.toNat sig.s.toNat).fits = true := by
  obtain ⟨body, hbody⟩ := exists_body_iff.2 hcomplete
  refine ⟨body, hbody, hfits _ ?_⟩
  rw [signedPayload, hsig, hbody]
  rfl

/-- A transaction whose signed form is short enough can be written exactly if it is signed and the
fields that are needed are set. -/
theorem exists_signedForm_iff [Stack] {t : Transaction} (hfits : t.SignedFits) :
    (∃ form, t.signedForm = .ok form) ↔ t.signature?.isSome = true ∧ t.common.Complete := by
  constructor
  · rintro ⟨form, h⟩
    obtain ⟨body, sig, hbody, hsig, _⟩ := signedForm_eq_ok_iff.1 h
    exact ⟨Option.isSome_iff_exists.2 ⟨sig, hsig⟩, exists_body_iff.1 ⟨body, hbody⟩⟩
  · rintro ⟨hsome, hcomplete⟩
    obtain ⟨sig, hsig⟩ := Option.isSome_iff_exists.1 hsome
    obtain ⟨body, hbody, hfitsPayload⟩ := exists_signedPayload hcomplete hsig hfits
    exact ⟨_, signedForm_eq_ok_iff.2
      ⟨body, sig, hbody, hsig, Payload.write_eq_ok_iff.2 ⟨hfitsPayload, rfl⟩⟩⟩

theorem payloadForChain_write (t : Transaction) (chain : Nat) :
    (t.payloadForChain chain >>= Payload.write) =
      t.body >>= fun body => (Payload.committing body (some chain)).write := by
  rw [payloadForChain]
  cases t.body <;> rfl

variable [Stack]

theorem signingForm_of_body {t : Transaction} {body : Payload.Body} {chain : Nat}
    (hbody : t.body = .ok body) (hchain : t.common.chainId.map Quantity.toNat = some chain) :
    t.signingForm = (Payload.committing body (some chain)).write := by
  obtain ⟨q, hq, _⟩ := Option.map_eq_some_iff.1 hchain
  have hcheck : t.check true = .ok () :=
    check_eq_ok_iff.2 ⟨exists_body_iff.1 ⟨body, hbody⟩, fun _ => by rw [hq]; rfl⟩
  rw [signingForm, hcheck, signingPayload, number_eq_ok_iff.2 hchain, Result.ok_bind,
    Result.ok_bind, payloadForChain_write, hbody, Result.ok_bind]

/-- **The signing form**: the body and the chain id, if they are short enough. -/
theorem signingForm_eq_ok_iff {t : Transaction} {form : Bytes} :
    t.signingForm = .ok form ↔
      ∃ body chain, t.body = .ok body ∧ t.common.chainId.map Quantity.toNat = some chain ∧
        (Payload.committing body (some chain)).write = .ok form := by
  constructor
  · intro h
    simp only [signingForm, Result.bind_eq_ok, signingPayload, payloadForChain,
      number_eq_ok_iff] at h
    obtain ⟨_, _, p, ⟨chain, hchain, body, hbody, hp⟩, hwrite⟩ := h
    cases hp
    exact ⟨body, chain, hbody, hchain, hwrite⟩
  · rintro ⟨body, chain, hbody, hchain, hwrite⟩
    rw [signingForm_of_body hbody hchain, hwrite]

/-! ### The message -/

theorem message_eq_signingForm {t : Transaction}
    (h : ∀ sig, t.signature? = some sig → sig.isPlaceholder = true) :
    t.message = t.signingForm := by
  rw [message]
  cases hsig : t.signature? with
  | none => rfl
  | some sig => exact if_pos (h sig hsig)

theorem message_eq_messageFor {t : Transaction} {sig : Signature} (hsig : t.signature? = some sig)
    (h : sig.isPlaceholder = false) : t.message = t.messageFor sig.v.toNat := by
  rw [message, hsig]
  exact if_neg (by simp [h])

/-- A recovery id that commits to no chain, or to the one of the transaction, has a message. -/
theorem messageFor_of_agree {t : Transaction} {v : Nat}
    (h : ∀ own chain, t.common.chainId = some own → RecoveryId.chain? v = some chain →
      own.toNat = chain) :
    t.messageFor v = t.check false >>= fun _ => t.body >>= fun body =>
      (Payload.committing body (RecoveryId.chain? v)).write := by
  rw [messageFor]
  cases hchain : RecoveryId.chain? v with
  | none => rfl
  | some chain =>
      simp only [← payloadForChain_write]
      cases hown : t.common.chainId with
      | none => rfl
      | some own => exact if_neg fun hne => hne (h own chain hown hchain)

/-- A recovery id that commits to another chain than the transaction is refused. -/
theorem messageFor_of_foreign {t : Transaction} {v chain : Nat} {own : Quantity}
    (hown : t.common.chainId = some own) (hchain : RecoveryId.chain? v = some chain)
    (h : own.toNat ≠ chain) :
    t.messageFor v = .error (.ofForeignChain chain own.toNat) := by
  rw [messageFor, hchain, hown]
  exact if_pos h

/-- **The message a recovery id commits to**, for a transaction of that chain or of no chain. -/
theorem messageFor_eq_ok_iff {t : Transaction} {v : Nat} {m : Bytes} :
    t.messageFor v = .ok m ↔
      (∀ own chain, t.common.chainId = some own → RecoveryId.chain? v = some chain →
        own.toNat = chain) ∧
      ∃ body, t.body = .ok body ∧
        (Payload.committing body (RecoveryId.chain? v)).write = .ok m := by
  constructor
  · intro hm
    have hagree : ∀ own chain, t.common.chainId = some own → RecoveryId.chain? v = some chain →
        own.toNat = chain := by
      intro own chain hown hchain
      by_cases h : own.toNat = chain
      · exact h
      · rw [messageFor_of_foreign hown hchain h] at hm
        cases hm
    rw [messageFor_of_agree hagree] at hm
    obtain ⟨_, _, hm⟩ := Result.bind_eq_ok.1 hm
    exact ⟨hagree, Result.bind_eq_ok.1 hm⟩
  · rintro ⟨hagree, body, hbody, hwrite⟩
    have hcheck : t.check false = .ok () :=
      check_eq_ok_iff.2 ⟨exists_body_iff.1 ⟨body, hbody⟩, by simp⟩
    rw [messageFor_of_agree hagree, hcheck, hbody]
    exact hwrite

end Transaction

end PlainTx
