/-
**Failing without a trace.**

What an action wrote before it failed stays, so that it is not plain that an operation that fails
leaves its transaction as it was.  Attaching and signing do, because everything that can fail comes
before the slot is written.  Combining writes the slot first and the signed form after that; but a
signature is only attached if it was carried by a copy, and a transaction that has a copy lacks
nothing that the signed form needs.  So all operations are atomic: they fail, and the transaction is
as it was, or they succeed, and at most its slot was filled.

Main definitions:

* `PlainTx.Action.Atomic` — an action that fails leaves the transaction as it was;
* `PlainTx.Action.Operates` — an action is atomic, and changes a transaction to what it can become.

Main results:

* `PlainTx.Transaction.append_operates`, `PlainTx.Transaction.sign_operates` — attaching and
  signing;
* `PlainTx.Transaction.signedForm_of_collected` — **the signed form can be written once a signature
  was attached**;
* `PlainTx.Transaction.combine_operates` — **combining**.
-/

import PlainTx.Proofs.Combining
import PlainTx.Proofs.Lifecycle

set_option relaxedAutoImplicit false
set_option autoImplicit false

namespace PlainTx

/-! ### Actions -/

namespace Action

variable {α β : Type}

/-- An action that fails leaves the transaction as it was. -/
def Atomic (m : Action α) : Prop :=
  ∀ t fault, (m t).result = .error fault → (m t).transaction = t

/-- What only looks is atomic. -/
theorem Observes.atomic {m : Action α} {f : Transaction → Except Fault α} (h : m.Observes f) :
    m.Atomic :=
  fun t _ _ => h.transaction t

/-- An atomic action may come after a look. -/
theorem Observes.bind_atomic {m : Action α} {f : Transaction → Except Fault α} {n : α → Action β}
    (hm : m.Observes f) (hn : ∀ a, (n a).Atomic) : (m >>= n).Atomic := by
  intro t fault
  have hbind : (m >>= n) t = Action.bind m n t := rfl
  rw [hbind]
  cases h : (m t).result with
  | error e =>
      rw [bind_of_error h, hm.transaction]
      exact fun _ => rfl
  | ok a =>
      rw [bind_of_ok h, hm.transaction]
      exact hn a t fault

/-- What is done after a look may depend on the transaction. -/
theorem Atomic.of_current {n : Transaction → Action α} (h : ∀ t, (n t).Atomic) :
    (current >>= n).Atomic :=
  fun t => h t t

/-- An atomic action may be followed by what cannot fail. -/
theorem Atomic.bind_pure {m : Action α} (hm : m.Atomic) (f : α → β) :
    (m >>= fun a => pure (f a)).Atomic := by
  intro t fault
  have hbind : (m >>= fun a => pure (f a)) t = Action.bind m (fun a => pure (f a)) t := rfl
  rw [hbind]
  cases h : (m t).result with
  | error e =>
      rw [bind_of_error h]
      exact fun _ => hm t e h
  | ok a =>
      rw [bind_of_ok h]
      intro hfault
      cases hfault

/-- An operation: whether it succeeds or fails, it changes a transaction to what it can become, and
if it fails it changes nothing. -/
structure Operates (m : Action α) : Prop where
  advances : m.Advances
  atomic : m.Atomic

theorem Observes.operates {m : Action α} {f : Transaction → Except Fault α} (h : m.Observes f) :
    m.Operates :=
  ⟨h.advances, h.atomic⟩

end Action

namespace Transaction

open PlainTx.Action (Atomic Operates observes_ofExcept)

variable [Stack] {t : Transaction} {detailed : Bool} {raws : Value}

/-! ### Attaching and signing -/

/-- **Attaching is atomic**: everything that can fail comes first. -/
theorem append_atomic (x : Value) : (append x).Atomic := by
  intro t fault h
  cases hattach : t.attach x with
  | error e => rw [append_of_error hattach]
  | ok attached =>
      rw [append_of_attach hattach] at h
      cases h

/-- **Signing is atomic**: all that comes before the signature is attached only looks. -/
theorem sign_atomic {Key : Type} (scheme : Scheme Key) (key : Key) : (sign scheme key).Atomic :=
  Atomic.of_current fun t => (observes_ofExcept t.slot.check).bind_atomic fun _ =>
    (newSignature_observes scheme key).bind_atomic fun sig =>
      (append_atomic (.signature sig)).bind_pure fun _ => sig

/-! ### Combining -/

/-- What is combined are the parts of a value. -/
theorem combine_of_parts {parts : List Value} (h : raws.parts = .ok parts) :
    combine detailed raws = combine detailed (.list parts) := by
  unfold combine
  rw [h]
  rfl

/-- Parts are all looked at before anything else is done. -/
theorem combine_of_no_parts {fault : Fault} (h : raws.parts = .error fault) :
    combine detailed raws t = ⟨.error fault, t, []⟩ := by
  unfold combine
  rw [h]
  rfl

/-- If signatures were collected from inputs, all of the inputs are copies. -/
theorem allCopies_of_collected {parts : List Value} {sigs : List Signature}
    (h : (collectAll detailed [] parts t).result = .ok sigs) : t.AllCopies parts := by
  by_contra hforeign
  obtain ⟨fault, hfault⟩ := exists_fault_of_collectAll detailed hforeign
  cases h.symm.trans hfault

/-- **The signed form can be written once a collected signature was attached**, because it came from
a copy; and combining comes to just that. -/
theorem signedForm_of_collected {parts : List Value} {sigs : List Signature} {u : Transaction}
    {replaced : Option Signature} (hparts : raws.parts = .ok parts)
    (hcollected : (collectAll detailed [] parts t).result = .ok sigs)
    (hattach : t.attach (.list (sigs.map .signature)) = .ok (u, replaced)) :
    ∃ form, u.signedForm = .ok form ∧ (combine detailed raws t).result = .ok form ∧
      (combine detailed raws t).transaction = u := by
  obtain ⟨_, _, sig, hread, rfl⟩ := attach_eq_ok_iff.1 hattach
  cases (Signature.readAll_list sigs).symm.trans hread
  have hcopies := allCopies_of_collected hcollected
  obtain ⟨sigs', hcollected', _, hnew⟩ := exists_collected detailed hcopies
  cases hcollected.symm.trans hcollected'
  obtain ⟨form, hform⟩ := exists_signedForm_of_mem hcopies
    (hnew ▸ List.mem_toFinset.2 (List.mem_singleton_self sig))
  obtain ⟨hresult, htransaction⟩ := attachAll_of_attach (List.cons_ne_nil sig []) hattach
  rw [combine_of_parts hparts, combine_eq, Action.bind_of_ok hcollected,
    (collectAll_observes detailed [] parts).transaction]
  exact ⟨form, hform, hresult.trans hform, htransaction⟩

/-- **Combining is atomic**, although it writes the slot before the signed form. -/
theorem combine_atomic (detailed : Bool) (raws : Value) : (combine detailed raws).Atomic := by
  intro t fault h
  cases hparts : raws.parts with
  | error e => rw [combine_of_no_parts hparts]
  | ok parts =>
      rw [combine_of_parts hparts] at h ⊢
      by_cases hcopies : t.AllCopies parts
      · exact (h ▸ combined_of_copies detailed hcopies).of_error
          fun _ => exists_signedForm_of_mem hcopies
      · obtain ⟨_, _, htransaction⟩ := combine_of_foreign detailed hcopies
        exact htransaction

/-! ### Operations -/

theorem append_operates (x : Value) : (append x).Operates := ⟨append_advances x, append_atomic x⟩

theorem sign_operates {Key : Type} (scheme : Scheme Key) (key : Key) :
    (sign scheme key).Operates :=
  ⟨sign_advances scheme key, sign_atomic scheme key⟩

theorem combine_operates (detailed : Bool) (raws : Value) : (combine detailed raws).Operates :=
  ⟨combine_advances detailed raws, combine_atomic detailed raws⟩

/-- Asking for a property leaves the transaction as it is. -/
theorem get_operates (property : Property) : (get property).Operates :=
  ⟨get_advances property, fun t _ _ => get_transaction property t⟩

end Transaction

end PlainTx
