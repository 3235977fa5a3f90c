/-
**Combining signed copies.**

Combining reads signed copies of a transaction and attaches the one new signature they carry.  What
it comes to depends on two things only: whether all inputs are copies, and which new signatures they
carry.  If one of the inputs is no copy it fails.  Otherwise there are four cases: no new signature,
and the transaction is written as it is; one, which the slot takes; a slot that is not available;
and more new signatures than the slot takes.  A failure leaves the transaction alone.

Main definitions:

* `PlainTx.Transaction.Combined` — what combining copies comes to, given their new signatures.

Main results:

* `PlainTx.Transaction.combined_of_copies` — **combining copies comes to one of the four cases**;
* `PlainTx.Transaction.Combined.unique` — and to no more than one;
* `PlainTx.Transaction.combine_of_foreign` — an input that is no copy makes combining fail;
* `PlainTx.Transaction.combine_ok_iff` — **when combining succeeds**, and what it comes to.
-/

import PlainTx.Proofs.Commitment
import PlainTx.Proofs.Copies

set_option relaxedAutoImplicit false
set_option autoImplicit false

namespace PlainTx.Transaction

section

variable [Stack] {t : Transaction} {raws : List Value} {sigs : List Signature} {detailed : Bool}

/-! ### From what was collected to the outcome -/

/-- Attaches the signatures that were collected, if there are any, and writes the transaction. -/
def attachAll (sigs : List Signature) : Action Bytes := do
  unless sigs.isEmpty do append (.list (sigs.map .signature))
  encode

theorem combine_eq (detailed : Bool) (raws : List Value) (t : Transaction) :
    combine detailed (.list raws) t = Action.bind (collectAll detailed [] raws) attachAll t := rfl

theorem attachAll_eq (hsome : sigs ≠ []) (t : Transaction) :
    attachAll sigs t =
      Action.bind (append (.list (sigs.map .signature))) (fun _ => encode) t := by
  rw [attachAll, List.isEmpty_eq_false_iff.2 hsome]
  rfl

theorem attachAll_of_attach {u : Transaction} {replaced : Option Signature} (hsome : sigs ≠ [])
    (h : t.attach (.list (sigs.map .signature)) = .ok (u, replaced)) :
    (attachAll sigs t).result = u.signedForm ∧ (attachAll sigs t).transaction = u := by
  have happend := append_of_attach h
  rw [attachAll_eq hsome, Action.bind_of_ok (congrArg Action.Trace.result happend), happend]
  exact ⟨encode_observes.result u, encode_observes.transaction u⟩

theorem attachAll_of_error {fault : Fault} (hsome : sigs ≠ [])
    (h : t.attach (.list (sigs.map .signature)) = .error fault) :
    (attachAll sigs t).result = .error fault ∧ (attachAll sigs t).transaction = t := by
  have happend := append_of_error h
  rw [attachAll_eq hsome, Action.bind_of_error (congrArg Action.Trace.result happend), happend]
  exact ⟨rfl, rfl⟩

/-! ### The outcomes -/

/-- What combining copies comes to, given the new signatures that they carry: the result, and the
transaction afterwards. -/
inductive Combined (t : Transaction) (new : Finset Signature) :
    Except Fault Bytes → Transaction → Prop where
  /-- There is no new signature. -/
  | kept (hnew : new = ∅) : Combined t new t.signedForm t
  /-- There is one, and the slot takes it. -/
  | filled (sig : Signature) (hnew : new = {sig}) (havailable : t.slot.available = true) :
      Combined t new (t.holding sig).signedForm (t.holding sig)
  /-- There are some, and the slot takes none. -/
  | occupied (hnew : new.Nonempty) (hoccupied : t.slot.available = false) :
      Combined t new (.error (.occupied t.slot.owner)) t
  /-- There are more than one, of which the slot takes none. -/
  | several (hnew : 1 < new.card) (havailable : t.slot.available = true) :
      Combined t new (.error (.notOneSignature new.card)) t

section Outcomes

variable {new : Finset Signature} {r r' : Except Fault Bytes} {u u' : Transaction} {form : Bytes}
  {fault : Fault}

/-- Combining comes to one of its outcomes only. -/
theorem Combined.unique (h : t.Combined new r u) (h' : t.Combined new r' u') :
    r = r' ∧ u = u' := by
  cases h with
  | kept hnew =>
      cases h' with
      | kept => exact ⟨rfl, rfl⟩
      | _ => simp_all
  | filled sig hnew havailable =>
      cases h' with
      | filled sig' hnew' =>
          cases Finset.singleton_injective (hnew.symm.trans hnew')
          exact ⟨rfl, rfl⟩
      | _ => simp_all
  | occupied hnew hoccupied =>
      cases h' with
      | occupied => exact ⟨rfl, rfl⟩
      | _ => simp_all
  | several hnew havailable =>
      cases h' with
      | several => exact ⟨rfl, rfl⟩
      | _ => simp_all

/-- What is returned is the signed form of the transaction afterwards. -/
theorem Combined.of_ok (h : t.Combined new (.ok form) u) :
    u.signedForm = .ok form ∧ (new = ∅ ∧ u = t ∨ ∃ sig, new = {sig} ∧ u = t.holding sig) := by
  generalize hr : (Except.ok form : Except Fault Bytes) = r at h
  cases h with
  | kept hnew => exact ⟨rfl, .inl ⟨hnew, rfl⟩⟩
  | filled sig hnew => exact ⟨rfl, .inr ⟨sig, hnew, rfl⟩⟩
  | _ => cases hr

variable (hforms : ∀ sig ∈ new, ∃ form, (t.holding sig).signedForm = .ok form)

include hforms

/-- A failure leaves the transaction alone. -/
theorem Combined.of_error (h : t.Combined new (.error fault) u) : u = t := by
  generalize hr : (Except.error fault : Except Fault Bytes) = r at h
  cases h with
  | filled sig hnew =>
      obtain ⟨form, hform⟩ := hforms sig (hnew ▸ Finset.mem_singleton_self sig)
      cases hr.trans hform
  | _ => rfl

theorem Combined.ok_iff (h : t.Combined new r u) :
    (∃ form, r = .ok form) ↔
      new = ∅ ∧ (∃ form, t.signedForm = .ok form) ∨ new.card = 1 ∧ t.slot.available = true := by
  cases h with
  | kept hnew => simp [hnew]
  | filled sig hnew havailable =>
      simp [hnew, havailable, hforms sig (hnew ▸ Finset.mem_singleton_self sig)]
  | occupied hnew hoccupied => simp [hnew.ne_empty, hoccupied]
  | several hnew havailable =>
      have hne : new ≠ ∅ := by
        rintro rfl
        cases hnew
      simp [hne, Nat.ne_of_gt hnew]

end Outcomes

/-! ### Combining -/

theorem combined_attachAll (hnodup : sigs.Nodup) :
    t.Combined sigs.toFinset (attachAll sigs t).result (attachAll sigs t).transaction := by
  have hread := Signature.readAll_list sigs
  match sigs, hnodup with
  | [], _ =>
      have hrun : attachAll [] t = encode t := rfl
      rw [hrun, encode_observes.result, encode_observes.transaction]
      exact .kept rfl
  | sig :: rest, hnodup =>
      cases havailable : t.slot.available with
      | false =>
          obtain ⟨hresult, htransaction⟩ :=
            attachAll_of_error (List.cons_ne_nil sig rest) (attach_of_occupied havailable hread)
          rw [hresult, htransaction]
          exact .occupied ⟨sig, List.mem_toFinset.2 List.mem_cons_self⟩ havailable
      | true =>
          cases rest with
          | nil =>
              obtain ⟨hresult, htransaction⟩ :=
                attachAll_of_attach (List.cons_ne_nil sig []) (attach_of_available havailable hread)
              rw [hresult, htransaction]
              exact .filled sig rfl havailable
          | cons other rest =>
              have hcard := List.toFinset_card_of_nodup hnodup
              obtain ⟨hresult, htransaction⟩ :=
                attachAll_of_error (List.cons_ne_nil sig (other :: rest))
                  (attach_of_several havailable hread (by simp))
              rw [hresult, htransaction, ← hcard]
              exact .several (by rw [hcard]; simp) havailable

/-- **Combining copies comes to one of the outcomes.** -/
theorem combined_of_copies (detailed : Bool) (h : t.AllCopies raws) :
    t.Combined (t.newSignatures raws) (combine detailed (.list raws) t).result
      (combine detailed (.list raws) t).transaction := by
  obtain ⟨sigs, hcollected, hnodup, hnew⟩ := exists_collected detailed h
  rw [combine_eq, Action.bind_of_ok hcollected,
    (collectAll_observes detailed [] raws).transaction, ← hnew]
  exact combined_attachAll hnodup

/-- An input that is no copy makes combining fail, and nothing is attached. -/
theorem combine_of_foreign (detailed : Bool) (h : ¬ t.AllCopies raws) :
    ∃ fault, (combine detailed (.list raws) t).result = .error fault ∧
      (combine detailed (.list raws) t).transaction = t := by
  obtain ⟨fault, hfault⟩ := exists_fault_of_collectAll detailed h
  rw [combine_eq, Action.bind_of_error hfault]
  exact ⟨fault, rfl, (collectAll_observes detailed [] raws).transaction t⟩

theorem exists_signedForm_of_mem {sig : Signature} (h : t.AllCopies raws)
    (hsig : sig ∈ t.newSignatures raws) : ∃ form, (t.holding sig).signedForm = .ok form := by
  obtain ⟨raw, hraw, copy, hdecode, hnew⟩ := mem_newSignatures_iff.1 hsig
  obtain ⟨read, hread⟩ := h raw hraw
  cases hread.1.symm.trans hdecode
  obtain ⟨form, _, hform⟩ := exists_signedForm_of_isCopy hread (newSignature?_eq_some_iff.1 hnew).1
  exact ⟨form, hform⟩

/-- Copies that carry the same new signature: it is attached if the slot is available. -/
theorem combine_of_same {copy : Transaction} {sig : Signature} (detailed : Bool) (hsome : raws ≠ [])
    (hcopies : ∀ raw ∈ raws, t.IsCopy raw copy) (hnew : t.newSignature? copy = some sig)
    (havailable : t.slot.available = true) :
    ∃ form, (combine detailed (.list raws) t).result = .ok form ∧
      (combine detailed (.list raws) t).transaction = t.holding sig := by
  have hall : t.AllCopies raws := fun raw hraw => ⟨copy, hcopies raw hraw⟩
  have hsigs : t.newSignatures raws = {sig} :=
    newSignatures_of_same hsome (fun raw hraw => (hcopies raw hraw).1) hnew
  obtain ⟨form, hform⟩ := exists_signedForm_of_mem hall (hsigs ▸ Finset.mem_singleton_self sig)
  obtain ⟨hresult, htransaction⟩ :=
    (combined_of_copies detailed hall).unique (.filled sig hsigs havailable)
  exact ⟨form, hresult.trans hform, htransaction⟩

/-- A signed copy of a transaction that holds a placeholder. -/
theorem exists_copy_unsignedTransfer :
    ∃ form copy, (unsignedTransfer.holding committed).signedForm = .ok form ∧
      unsignedTransfer.newSignature? copy = some committed ∧
      ∀ x, inputBytes x = .ok form → unsignedTransfer.IsCopy x copy := by
  have hfits : (unsignedTransfer.holding committed).SignedFits :=
    signedFits_of_ordinary body_unsignedTransfer ordinary_transferBody rfl (by decide) (by decide)
      (by decide)
  obtain ⟨form, copy, hform, hsig, hcopy⟩ :=
    exists_copy (t := unsignedTransfer) (by decide) (by decide) hfits
  exact ⟨form, copy, hform, newSignature?_eq_some_iff.2 ⟨hsig, by decide, by decide⟩, hcopy⟩

/-- **When combining succeeds, and what it comes to.**  It succeeds exactly if every input is read
and agrees with the transaction, and either there is no new signature and the transaction can be
written as it is, or there is one and the slot is available.  The order of the inputs does not
matter, nor does how often each of them comes. -/
theorem combine_ok_iff {c : Action.Trace Bytes} (hfits : t.SignedFits)
    (hc : combine detailed (.list raws) t = c) :
    (t.AllCopies raws ↔ ∀ raw ∈ raws, ∃ copy, decode t.policy raw = .ok copy ∧
      (compare detailed copy false t).result = .ok true) ∧
    ((∃ form, c.result = .ok form) ↔ t.AllCopies raws ∧
      (t.newSignatures raws = ∅ ∧ t.signature?.isSome = true ∧ t.common.Complete ∨
        (t.newSignatures raws).card = 1 ∧ ∀ held, t.signature? = some held →
          t.policy = .replaceEmpty ∧ held.numbers = (1, 0, 0))) ∧
    (∀ form, c.result = .ok form → (encode c.transaction).result = .ok form ∧
      (get .signedText c.transaction).result = .ok (.text (Hex.text form)) ∧
      (t.newSignatures raws = ∅ ∧ c.transaction = t ∨
        ∃ sig, t.newSignatures raws = {sig} ∧ c.transaction = t.holding sig)) ∧
    (∀ fault, c.result = .error fault → c.transaction = t) ∧
    (t.AllCopies raws → ∀ raws', (∀ raw, raw ∈ raws' ↔ raw ∈ raws) →
      (combine detailed (.list raws') t).result = c.result ∧
      (combine detailed (.list raws') t).transaction = c.transaction) ∧
    (t.AllCopies raws → t.slot.available = false → (t.newSignatures raws).Nonempty →
      c.result = .error (.occupied t.slot.owner)) ∧
    (t.AllCopies raws → t.slot.available = true → 1 < (t.newSignatures raws).card →
      c.result = .error (.notOneSignature (t.newSignatures raws).card)) := by
  subst hc
  have hforeign : ¬ t.AllCopies raws → _ := combine_of_foreign detailed
  have hcombined : t.AllCopies raws → _ := combined_of_copies detailed
  have hforms : t.AllCopies raws → ∀ sig ∈ t.newSignatures raws,
      ∃ form, (t.holding sig).signedForm = .ok form := fun h _ => exists_signedForm_of_mem h
  refine ⟨?_, ?_, ?_, ?_, ?_, ?_, ?_⟩
  · simp only [AllCopies, IsCopy, compare_eq_ok_true_iff]
  · by_cases hcopies : t.AllCopies raws
    · rw [(hcombined hcopies).ok_iff (hforms hcopies), exists_signedForm_iff hfits,
        Slot.available_iff]
      exact (and_iff_right hcopies).symm
    · obtain ⟨fault, hfault, _⟩ := hforeign hcopies
      simp [hfault, hcopies]
  · intro form hform
    by_cases hcopies : t.AllCopies raws
    · obtain ⟨hsigned, hcases⟩ := (hform ▸ hcombined hcopies).of_ok
      refine ⟨(encode_observes.result _).trans hsigned, ?_, hcases⟩
      rw [get_signedText, hsigned]
      rfl
    · obtain ⟨fault, hfault, _⟩ := hforeign hcopies
      cases hform.symm.trans hfault
  · intro fault hfault
    by_cases hcopies : t.AllCopies raws
    · exact (hfault ▸ hcombined hcopies).of_error (hforms hcopies)
    · obtain ⟨_, _, htransaction⟩ := hforeign hcopies
      exact htransaction
  · intro hcopies raws' hmem
    have hcombined' := combined_of_copies detailed ((allCopies_congr hmem).2 hcopies)
    rw [newSignatures_congr hmem] at hcombined'
    exact hcombined'.unique (hcombined hcopies)
  · intro hcopies hoccupied hnew
    exact ((hcombined hcopies).unique (.occupied hnew hoccupied)).1
  · intro hcopies havailable hnew
    exact ((hcombined hcopies).unique (.several hnew havailable)).1

end

open scoped Stack.Usual

/-- One copy is given twice, as bytes and as their text, and its signature replaces a
placeholder. -/
theorem combine_ok_iff_unsignedTransfer :
    unsignedTransfer.SignedFits ∧ ∃ form c,
      combine true (.list [.bytes form, .text (Hex.text form)]) unsignedTransfer = c ∧
      unsignedTransfer.newSignatures [.bytes form, .text (Hex.text form)] = {committed} ∧
      c.result = .ok form ∧ c.transaction = unsignedTransfer.holding committed := by
  have hfits : unsignedTransfer.SignedFits :=
    signedFits_of_ordinary body_unsignedTransfer ordinary_transferBody rfl (by decide) (by decide)
      (by decide)
  obtain ⟨form, copy, hform, hcarried, hcopy⟩ := exists_copy_unsignedTransfer
  have hcopies : ∀ raw ∈ [.bytes form, .text (Hex.text form)],
      unsignedTransfer.IsCopy raw copy := by
    simp only [List.mem_cons, List.not_mem_nil, or_false]
    rintro raw (rfl | rfl)
    · exact hcopy _ rfl
    · exact hcopy _ (inputBytes_text form)
  have hnew : unsignedTransfer.newSignatures [.bytes form, .text (Hex.text form)] = {committed} :=
    newSignatures_of_same (List.cons_ne_nil _ _) (fun raw hraw => (hcopies raw hraw).1) hcarried
  have hrun : combine true (.list [.bytes form, .text (Hex.text form)]) unsignedTransfer =
      combine true (.list [.bytes form, .text (Hex.text form)]) unsignedTransfer := rfl
  obtain ⟨_, hiff, hresult, _⟩ := combine_ok_iff hfits hrun
  obtain ⟨form', hform'⟩ := hiff.2
    ⟨fun raw hraw => ⟨copy, hcopies raw hraw⟩, .inr ⟨by rw [hnew]; rfl, available_unsignedTransfer⟩⟩
  obtain ⟨hencode, _, hcases⟩ := hresult form' hform'
  rcases hcases with ⟨hnone, _⟩ | ⟨sig, hsome, htransaction⟩
  · rw [hnew] at hnone
    exact absurd hnone (Finset.singleton_ne_empty committed)
  · cases Finset.singleton_injective (hsome.symm.trans hnew)
    rw [htransaction, encode_observes.result, hform] at hencode
    cases hencode
    exact ⟨hfits, form, _, rfl, hnew, hform', htransaction⟩

end PlainTx.Transaction
