/-
**What operations compute.**

An operation that only looks computes its result from the transaction alone, and leaves the
transaction as it is; what it journals has no say in either.  The operations on the slot either fill
it, or fail and leave it alone.

Main definitions:

* `PlainTx.Action.Observes` — an action only looks, and its result is the given function of the
  transaction.

Main results:

* `PlainTx.Transaction.encode_observes`, `PlainTx.Transaction.encodeForSigning_observes`,
  `PlainTx.Transaction.messageForSigning_observes`, `PlainTx.Transaction.recoverSender_observes`,
  `PlainTx.Transaction.compare_observes`, `PlainTx.Transaction.get_transaction` — the operations
  that only look;
* `PlainTx.Transaction.append_of_attach`, `PlainTx.Transaction.append_of_error` — attaching;
* `PlainTx.Transaction.sign_of_available`, `PlainTx.Transaction.sign_of_occupied` — **signing**.
-/

import PlainTx.Proofs.Forms
import PlainTx.Proofs.Slots
import PlainTx.Transaction.Property

set_option relaxedAutoImplicit false
set_option autoImplicit false

namespace PlainTx

/-! ### Actions -/

namespace Action

variable {α β : Type}

/-- The action only looks, and its result is the given function of the transaction. -/
structure Observes (m : Action α) (f : Transaction → Except Fault α) : Prop where
  result : ∀ t, (m t).result = f t
  transaction : ∀ t, (m t).transaction = t

theorem observes_pure (a : α) : Observes (pure a : Action α) fun _ => .ok a :=
  ⟨fun _ => rfl, fun _ => rfl⟩

theorem observes_record (events : List Event) : Observes (record events) fun _ => .ok () :=
  ⟨fun _ => rfl, fun _ => rfl⟩

theorem observes_ofExcept (x : Except Fault α) : Observes (ofExcept x) fun _ => x :=
  ⟨fun _ => rfl, fun _ => rfl⟩

/-- One look after another is a look. -/
theorem Observes.bind {m : Action α} {f : Transaction → Except Fault α} {n : α → Action β}
    {g : α → Transaction → Except Fault β} (hm : m.Observes f) (hn : ∀ a, (n a).Observes (g a)) :
    (m >>= n).Observes fun t => f t >>= fun a => g a t := by
  have hbind : ∀ t, (m >>= n) t = Action.bind m n t := fun _ => rfl
  constructor
  · intro t
    rw [hbind, ← hm.result]
    cases h : (m t).result with
    | error fault => rw [bind_of_error h, Result.error_bind]
    | ok a => rw [bind_of_ok h, Result.ok_bind, ← (hn a).result, hm.transaction]
  · intro t
    rw [hbind]
    cases h : (m t).result with
    | error fault => rw [bind_of_error h, hm.transaction]
    | ok a => rw [bind_of_ok h, (hn a).transaction, hm.transaction]

theorem Observes.congr {m : Action α} {f g : Transaction → Except Fault α} (h : m.Observes f)
    (hfg : ∀ t, f t = g t) : m.Observes g :=
  ⟨fun t => (h.result t).trans (hfg t), h.transaction⟩

/-- What is done next may be chosen by looking at the transaction. -/
theorem Observes.of_current {n : Transaction → Action α} {f : Transaction → Except Fault α}
    (h : ∀ t, ∃ g, (n t).Observes g ∧ g t = f t) : (current >>= n).Observes f := by
  have hrun : ∀ t, (current >>= n) t = n t t := fun _ => rfl
  constructor
  · intro t
    obtain ⟨g, hg, hgt⟩ := h t
    rw [hrun, hg.result, hgt]
  · intro t
    obtain ⟨g, hg, _⟩ := h t
    rw [hrun, hg.transaction]

/-- What is computed from the transaction, and journalled then. -/
theorem observes_journalled {f : Transaction → Except Fault α} {event : Transaction → α → Event} :
    Observes
      (do
        let t ← current
        let a ← ofExcept (f t)
        record [event t a]
        return a)
      f :=
  Observes.of_current fun t =>
    ⟨_, (observes_ofExcept (f t)).bind fun a =>
      (observes_record [event t a]).bind fun _ => observes_pure a, by cases f t <;> rfl⟩

end Action

namespace Transaction

open PlainTx.Action (current put record ofExcept Observes observes_pure observes_record
  observes_ofExcept observes_journalled)

/-! ### Operations that only look -/

theorem encode_observes [Stack] : encode.Observes signedForm := observes_journalled

theorem encodeForSigning_observes [Stack] :
    encodeForSigning.Observes signingForm := observes_journalled

theorem messageForSigning_observes [Stack] : messageForSigning.Observes message := by
  refine Observes.of_current fun t => ?_
  cases hsig : t.signature? with
  | none => exact ⟨_, encodeForSigning_observes, (message_eq_signingForm (by simp [hsig])).symm⟩
  | some sig =>
      by_cases h : sig.isPlaceholder = true
      · refine ⟨signingForm, ?_, (message_eq_signingForm (by simp [hsig, h])).symm⟩
        simpa [h] using encodeForSigning_observes
      · refine ⟨fun _ => t.message, ?_, rfl⟩
        simpa [h] using observes_ofExcept t.message

theorem recoverSender_observes [Stack] {Key : Type} (scheme : Scheme Key) :
    (recoverSender scheme).Observes (sender scheme) :=
  Observes.of_current fun t => ⟨_, observes_ofExcept (t.sender scheme), rfl⟩

/-- Comparing, where a detailed journal has to be one that can be written. -/
theorem compare_observes (detailed : Bool) (u : Transaction) (checkSignature : Bool) :
    (compare detailed u checkSignature).Observes fun t =>
      if t.equalFields u checkSignature = true then .ok true
      else if detailed = true then
        (t.difference u checkSignature).requireWritable.map fun _ => false
      else .ok false := by
  refine Observes.of_current fun t => ?_
  cases hequal : t.equalFields u checkSignature with
  | true => exact ⟨_, observes_pure true, by simp⟩
  | false =>
      cases detailed with
      | false => exact ⟨_, observes_pure false, by simp⟩
      | true =>
          refine ⟨_, (observes_ofExcept _).bind fun d =>
            (observes_record _).bind fun _ => observes_pure false, ?_⟩
          simp only [Bool.false_eq_true, if_false, if_true]
          cases (t.difference u checkSignature).requireWritable <;> rfl

variable [Stack]

/-- A property that is computed from the signed form. -/
theorem result_encode_bind (f : Bytes → Value) (t : Transaction) :
    ((do return f (← encode) : Action Value) t).result = t.signedForm.map f := by
  refine ((encode_observes.bind fun form => observes_pure (f form)).result t).trans ?_
  cases t.signedForm <;> rfl

/-- The text of the signed form. -/
theorem get_signedText (t : Transaction) :
    (get .signedText t).result = t.signedForm.map fun form => .text (Hex.text form) :=
  result_encode_bind _ t

/-- The hash of the signed form. -/
theorem get_transactionHash (t : Transaction) :
    (get .transactionHash t).result =
      t.signedForm.map fun form => .text (Hex.text (keccak256 form)) :=
  result_encode_bind _ t

/-- Asking for a property leaves the transaction as it is. -/
theorem get_transaction (property : Property) (t : Transaction) :
    (get property t).transaction = t := by
  cases property with
  | signedText | transactionHash =>
      exact (encode_observes.bind fun _ => observes_pure _).transaction t
  | signingText | signingHash =>
      exact (encodeForSigning_observes.bind fun _ => observes_pure _).transaction t
  | _ => rfl

/-! ### Attaching -/

theorem append_eq (x : Value) (t : Transaction) :
    append x t =
      (ofExcept (t.attach x) >>= fun (u, replaced) => do
        put u
        record [Event.ofAttach u replaced] : Action Unit) t := rfl

theorem append_of_attach {t u : Transaction} {x : Value} {replaced : Option Signature}
    (h : t.attach x = .ok (u, replaced)) :
    append x t = ⟨.ok (), u, [Event.ofAttach u replaced]⟩ := by
  rw [append_eq, h]
  rfl

theorem append_of_error {t : Transaction} {x : Value} {fault : Fault}
    (h : t.attach x = .error fault) : append x t = ⟨.error fault, t, []⟩ := by
  rw [append_eq, h]
  rfl

/-- **A slot that is not available refuses every signature**, and stays as it is. -/
theorem append_of_occupied {t : Transaction} (h : t.slot.available = false) {x : Value}
    {sigs : List Signature} (hx : Signature.readAll x = .ok sigs) :
    append x t = ⟨.error (.occupied t.slot.owner), t, []⟩ :=
  append_of_error (attach_of_occupied h hx)

/-! ### Signing -/

variable {Key : Type} {scheme : Scheme Key} {key : Key}

/-- The signature of a key for a message, which commits to a chain. -/
def signatureFor (scheme : Scheme Key) (key : Key) (chain : Nat) (form : Bytes) : Signature :=
  .ofNumbers (RecoveryId.ofChain chain (scheme.sign key form).1) (scheme.sign key form).2.1
    (scheme.sign key form).2.2

theorem newSignature_observes (scheme : Scheme Key) (key : Key) :
    (newSignature scheme key).Observes fun t => t.signingForm >>= fun form =>
      (number "chain_id" t.common.chainId).map fun chain => signatureFor scheme key chain form := by
  refine encodeForSigning_observes.bind fun form => Observes.of_current fun t => ?_
  refine ⟨_, (observes_ofExcept _).bind fun chain =>
    observes_pure (signatureFor scheme key chain form), ?_⟩
  cases number "chain_id" t.common.chainId <;> rfl

theorem sign_eq (scheme : Scheme Key) (key : Key) (t : Transaction) :
    sign scheme key t =
      (ofExcept t.slot.check >>= fun _ => do
        let sig ← newSignature scheme key
        append (.signature sig)
        return sig : Action Signature) t := rfl

/-- **Signing an available slot** puts the new signature into it. -/
theorem sign_of_available {t : Transaction} {chain : Nat} {form : Bytes}
    (h : t.slot.available = true) (hform : t.signingForm = .ok form)
    (hchain : t.common.chainId.map Quantity.toNat = some chain) :
    (sign scheme key t).result = .ok (signatureFor scheme key chain form) ∧
      (sign scheme key t).transaction = t.holding (signatureFor scheme key chain form) := by
  -- the check and the making of the signature only look; attaching it is the last step
  have hnew := newSignature_observes scheme key
  have hmade : (newSignature scheme key t).result = .ok (signatureFor scheme key chain form) := by
    rw [hnew.result, hform, number_eq_ok_iff.2 hchain]
    rfl
  have hrun : sign scheme key t =
      Action.bind (newSignature scheme key) (fun sig => do
        append (.signature sig)
        return sig) t := by
    rw [sign_eq, Slot.check_of_available h]
    rfl
  rw [hrun, Action.bind_of_ok hmade, hnew.transaction]
  have hbind : ∀ sig, (do append (.signature sig); return sig : Action Signature) t =
      Action.bind (append (.signature sig)) (fun _ => pure sig) t := fun _ => rfl
  rw [hbind, Action.bind, append_of_attach (attach_signature h _)]
  exact ⟨rfl, rfl⟩

/-- Signing looks at the slot first. -/
theorem sign_of_occupied {t : Transaction} (h : t.slot.available = false) :
    sign scheme key t = ⟨.error (.occupied t.slot.owner), t, []⟩ := by
  rw [sign_eq, Slot.check_of_occupied h]
  rfl

end Transaction

end PlainTx
