/-
**Where signatures come from.**

A signature gets into a transaction in one of three ways.  It is made of numbers, by signing or by
reading a signed form; it is made of three components; or it is given as it is, somewhere inside a
value.  In the first two ways it is minimal.  So whatever holds of all minimal signatures, and of
those that the arguments of an operation mention, holds of the signature of the transaction that the
operation leaves behind.  This module says so for every operation.

Main definitions:

* `PlainTx.Value.Mentions` — a signature stands somewhere inside a value, which is not so for a
  value that is `PlainTx.Value.isPlain`;
* `PlainTx.Value.Only`, `PlainTx.Transaction.Only` — all signatures that stand inside are of one
  kind.

Main results:

* `PlainTx.Signature.of_readAll` — the signatures that a value holds are minimal or mentioned;
* `PlainTx.Transaction.minimal_of_decode` — the signature of a transaction that is read is minimal;
* `PlainTx.Transaction.only_of_create`, `PlainTx.Transaction.only_of_copy`,
  `PlainTx.Transaction.only_of_template`, `PlainTx.Builder.only_of_build` — **new transactions**;
* `PlainTx.Transaction.only_append`, `PlainTx.Transaction.only_sign`,
  `PlainTx.Transaction.only_combine` — **operations on a transaction**.
-/

import PlainTx.Builder
import PlainTx.Proofs.Combining
import PlainTx.Proofs.Creation
import PlainTx.Proofs.Denotation

set_option relaxedAutoImplicit false
set_option autoImplicit false

namespace PlainTx

variable {P : Signature → Prop}

/-! ### Signatures inside values -/

namespace Value

/-- The signature stands somewhere inside the value. -/
inductive Mentions : Value → Signature → Prop where
  | self (sig : Signature) : Mentions (.signature sig) sig
  | inList {items : List Value} {x : Value} {sig : Signature} (hx : x ∈ items)
      (h : x.Mentions sig) : Mentions (.list items) sig
  | inTuple {items : List Value} {x : Value} {sig : Signature} (hx : x ∈ items)
      (h : x.Mentions sig) : Mentions (.tuple items) sig
  | inKey {entries : List (Value × Value)} {key x : Value} {sig : Signature}
      (hx : (key, x) ∈ entries) (h : key.Mentions sig) : Mentions (.dict entries) sig
  | inEntry {entries : List (Value × Value)} {key x : Value} {sig : Signature}
      (hx : (key, x) ∈ entries) (h : x.Mentions sig) : Mentions (.dict entries) sig
  | inTransaction {transaction fault : Value} {sig : Signature} (h : transaction.Mentions sig) :
      Mentions (.outcome transaction fault) sig
  | inFault {transaction fault : Value} {sig : Signature} (h : fault.Mentions sig) :
      Mentions (.outcome transaction fault) sig

/-- All signatures inside the value are of one kind. -/
def Only (P : Signature → Prop) (x : Value) : Prop := ∀ sig, x.Mentions sig → P sig

/-- The value has no parts, and is no signature. -/
def isPlain : Value → Bool
  | .list _ | .tuple _ | .dict _ | .signature _ | .outcome .. => false
  | _ => true

theorem only_of_plain {x : Value} (h : x.isPlain = true) : x.Only P := by
  intro sig hsig
  cases hsig <;> cases h

theorem only_signature {sig : Signature} (h : P sig) : (Value.signature sig).Only P := by
  rintro _ ⟨⟩
  exact h

theorem only_list_iff {items : List Value} :
    (Value.list items).Only P ↔ ∀ x ∈ items, x.Only P := by
  constructor
  · intro h x hx sig hsig
    exact h sig (.inList hx hsig)
  · rintro h sig (_ | ⟨hx, hsig⟩)
    exact h _ hx sig hsig

theorem only_tuple_iff {items : List Value} :
    (Value.tuple items).Only P ↔ ∀ x ∈ items, x.Only P := by
  constructor
  · intro h x hx sig hsig
    exact h sig (.inTuple hx hsig)
  · rintro h sig (_ | _ | ⟨hx, hsig⟩)
    exact h _ hx sig hsig

theorem only_dict_iff {entries : List (Value × Value)} :
    (Value.dict entries).Only P ↔ ∀ entry ∈ entries, entry.1.Only P ∧ entry.2.Only P := by
  constructor
  · intro h entry hentry
    exact ⟨fun sig hsig => h sig (.inKey hentry hsig), fun sig hsig => h sig (.inEntry hentry hsig)⟩
  · intro h sig hsig
    cases hsig with
    | inKey hx hsig => exact (h _ hx).1 sig hsig
    | inEntry hx hsig => exact (h _ hx).2 sig hsig

/-- A part of a value mentions no more than the value. -/
theorem only_of_parts {x : Value} {parts : List Value} (h : x.parts = .ok parts) (hx : x.Only P) :
    ∀ part ∈ parts, part.Only P := by
  cases x with
  | text s =>
      cases h
      intro part hpart
      obtain ⟨c, _, rfl⟩ := List.mem_map.1 hpart
      exact only_of_plain rfl
  | bytes b =>
      cases h
      intro part hpart
      obtain ⟨c, _, rfl⟩ := List.mem_map.1 hpart
      exact only_of_plain rfl
  | list items =>
      cases h
      exact only_list_iff.1 hx
  | tuple items =>
      cases h
      exact only_tuple_iff.1 hx
  | dict entries =>
      cases h
      intro part hpart
      obtain ⟨entry, hentry, rfl⟩ := List.mem_map.1 hpart
      exact (only_dict_iff.1 hx entry hentry).1
  | signature sig =>
      cases h
      simp only [List.forall_mem_cons]
      exact ⟨only_of_plain rfl, only_of_plain rfl, only_of_plain rfl, by simp⟩
  | outcome transaction fault =>
      cases h
      simp only [List.forall_mem_cons]
      exact ⟨fun sig hsig => hx sig (.inTransaction hsig), fun sig hsig => hx sig (.inFault hsig),
        by simp⟩
  | _ => cases h

end Value

/-! ### Signatures that are read -/

section Reading

variable [Stack] (hP : ∀ sig : Signature, sig.Minimal → P sig)

include hP

/-- What is read as a signature is mentioned, or made of components. -/
theorem Signature.of_read {x : Value} {sig : Signature} (h : read x = .ok sig) (hx : x.Only P) :
    P sig := by
  unfold read at h
  split at h
  · cases h
    exact hx _ (.self _)
  · exact hP _ (denotes_of_ofComponents h).1
  · exact hP _ (denotes_of_ofComponents h).1
  · cases h

/-- **The signatures that a value holds** are mentioned in it, or made of components. -/
theorem Signature.of_readAll {x : Value} {sigs : List Signature} (h : readAll x = .ok sigs)
    (hx : x.Only P) : ∀ sig ∈ sigs, P sig := by
  unfold readAll at h
  split at h
  · cases h
    intro sig hsig
    cases List.mem_singleton.1 hsig
    exact hx _ (.self _)
  · obtain ⟨parts, hparts, h⟩ := Result.bind_eq_ok.1 h
    intro sig hsig
    obtain ⟨part, hpart, hread⟩ := (Result.mem_of_mapM h sig).1 hsig
    exact of_read hP hread (Value.only_of_parts hparts hx part hpart)

end Reading

/-! ### New transactions -/

namespace Transaction

/-- The signature of the transaction, if there is one, is of the given kind. -/
def Only (P : Signature → Prop) (t : Transaction) : Prop := ∀ sig, t.signature? = some sig → P sig

theorem only_holding {sig : Signature} (t : Transaction) (h : P sig) : (t.holding sig).Only P := by
  intro held hheld
  cases hheld
  exact h

/-- The signature of a transaction that is read is made of numbers. -/
theorem minimal_of_decode [Stack] {policy : Policy} {x : Value} {t : Transaction} {sig : Signature}
    (h : decode policy x = .ok t) (hsig : t.signature? = some sig) : sig.Minimal := by
  obtain ⟨_, _, v, r, s, _, _, _, _, rfl⟩ := decode_eq_ok_iff.1 h
  cases hsig
  exact Signature.minimal_ofNumbers v r s

end Transaction

/-- Arguments mention no more than the named values that they are put together from. -/
theorem Arguments.only_of_ofFields {fields : List (String × Value)} {a : Arguments}
    (h : ofFields fields = .ok a) (hfields : ∀ field ∈ fields, field.2.Only P) :
    a.signatures.Only P := by
  obtain ⟨recipient, value, policy, _, _, _, rfl⟩ := exists_of_ofFields h
  dsimp only
  cases hlookup : fields.lookup "signatures" with
  | none => exact Value.only_tuple_iff.2 (by simp)
  | some x =>
      obtain ⟨before, after, hsplit, _⟩ := List.lookup_eq_some_iff.1 hlookup
      exact hfields ("signatures", x) (by simp [hsplit])

namespace Transaction

variable {setting : Option String} {t u : Transaction}

theorem only_optionalValue (q : Option Quantity) : (Quantity.optionalValue q).Only P := by
  cases q <;> exact Value.only_of_plain rfl

theorem only_signaturesValue (ht : t.Only P) : t.signaturesValue.Only P := by
  refine Value.only_tuple_iff.2 fun x hx => ?_
  obtain ⟨sig, hsig, rfl⟩ := List.mem_map.1 hx
  exact Value.only_signature (ht sig (Option.mem_toList.1 hsig))

/-- The arguments of a transaction mention its signature only. -/
theorem only_fields (ht : t.Only P) : ∀ field ∈ t.fields, field.2.Only P := by
  simp only [fields, CommonFields.values, CommonValues.fields, List.forall_mem_append,
    List.forall_mem_cons]
  exact ⟨⟨⟨Value.only_of_plain rfl, Value.only_of_plain rfl, Value.only_of_plain rfl, by simp⟩,
    only_optionalValue _, only_optionalValue _, only_optionalValue _, only_optionalValue _,
    by simp⟩, only_signaturesValue ht, Value.only_of_plain rfl, by simp⟩

/-- The defaults of a template mention no signature. -/
theorem only_templateDefaults : ∀ field ∈ templateDefaults, field.2.Only P := by
  have hplain : ∀ field ∈ templateDefaults, field.2.isPlain = true := by decide
  exact fun field hfield => Value.only_of_plain (hplain field hfield)

section Making

variable [Stack] (hP : ∀ sig : Signature, sig.Minimal → P sig)

include hP

theorem only_of_assemble {recipient : Address} {value : Quantity} {input : Bytes}
    {common : CommonFields} {policy : Option Policy} {signatures : Value}
    (hsignatures : signatures.Only P)
    (h : assemble setting recipient value input common policy signatures = .ok t) : t.Only P := by
  obtain ⟨slot, rfl, hslot⟩ := exists_slot_of_assemble h
  intro sig hsig
  rcases hslot with ⟨_, hnone⟩ | ⟨held, hheld, hsome⟩
  · cases hsig.symm.trans hnone
  · cases hsig.symm.trans hsome
    exact Signature.of_readAll hP hheld hsignatures _ List.mem_cons_self

/-- **The signature of a new transaction** is mentioned in its arguments, or made of components. -/
theorem only_of_create {a : Arguments} (ha : a.signatures.Only P)
    (h : create setting a = .ok t) : t.Only P := by
  obtain ⟨_, _, _, _, _, _, _, _, h⟩ := create_eq_ok_iff.1 h
  exact only_of_assemble hP ha h

/-- **The signature of a copy** is the one of the transaction, or one of the new arguments. -/
theorem only_of_copy {overrides : List (String × Value)} (ht : t.Only P)
    (hoverrides : ∀ field ∈ overrides, field.2.Only P) (h : t.copy setting overrides = .ok u) :
    u.Only P := by
  simp only [copy] at h
  split at h
  · obtain ⟨a, ha, h⟩ := Result.bind_eq_ok.1 h
    refine only_of_create hP (Arguments.only_of_ofFields ha ?_) h
    intro field hfield
    rcases List.mem_append.1 hfield with hfield | hfield
    · exact hoverrides field hfield
    · exact only_fields ht field hfield
  · cases h

theorem only_of_template {given : List (String × Value)}
    (hgiven : ∀ field ∈ given, field.2.Only P) (h : template setting given = .ok t) :
    t.Only P := by
  simp only [template] at h
  split at h
  · split at h
    · obtain ⟨a, ha, h⟩ := Result.bind_eq_ok.1 h
      refine only_of_create hP (Arguments.only_of_ofFields ha ?_) h
      intro field hfield
      obtain ⟨entry, hentry, rfl⟩ := List.mem_map.1 hfield
      rcases List.mem_append.1 hentry with hentry | hentry
      · exact hgiven entry hentry
      · exact only_templateDefaults entry hentry
    · cases h
  · cases h

end Making

end Transaction

/-! ### Builders -/

theorem Builder.only_of_set [Stack] {b c : Builder} {field : Field} {x : Value}
    (hb : b.signatures.Only P) (hx : x.Only P) (h : b.set field x = .ok c) :
    c.signatures.Only P := by
  cases field with
  | signatures =>
      cases h
      exact hx
  | _ =>
      obtain ⟨_, _, h⟩ := Result.bind_eq_ok.1 h
      cases h
      exact hb

/-- **The signature of a transaction that is built** is mentioned in the builder, or made of
components. -/
theorem Builder.only_of_build [Stack] (hP : ∀ sig : Signature, sig.Minimal → P sig)
    {setting : Option String} {b : Builder} {t : Transaction} (hb : b.signatures.Only P)
    (h : b.build setting = .ok t) : t.Only P := by
  unfold build at h
  split at h
  · cases h
  · cases h
  · cases h
  · exact Transaction.only_of_assemble hP hb h

/-! ### Operations on a transaction -/

namespace Action

variable {α β : Type} {m : Action α} {n : α → Action β} {t : Transaction}

/-- What two actions in a row answer is what the second answers to the first. -/
theorem exists_of_bind_ok {b : β} (h : ((m >>= n) t).result = .ok b) :
    ∃ a, (m t).result = .ok a ∧ (n a (m t).transaction).result = .ok b := by
  have hbind : (m >>= n) t = Action.bind m n t := rfl
  rw [hbind] at h
  cases hm : (m t).result with
  | error fault =>
      rw [bind_of_error hm] at h
      cases h
  | ok a =>
      rw [bind_of_ok hm] at h
      exact ⟨a, rfl, h⟩

/-- What two actions in a row leave behind is what the second leaves behind, or the first if it
fails. -/
theorem transaction_of_bind {p : Transaction → Prop} (hm : p (m t).transaction)
    (hn : ∀ a, (m t).result = .ok a → p (n a (m t).transaction).transaction) :
    p ((m >>= n) t).transaction := by
  have hbind : (m >>= n) t = Action.bind m n t := rfl
  rw [hbind]
  cases h : (m t).result with
  | error fault =>
      rw [bind_of_error h]
      exact hm
  | ok a =>
      rw [bind_of_ok h]
      exact hn a h

end Action

namespace Transaction

variable {t : Transaction}

/-- The signature that a key makes is made of numbers. -/
theorem minimal_of_newSignature [Stack] {Key : Type} {scheme : Scheme Key} {key : Key}
    {sig : Signature} (h : (newSignature scheme key t).result = .ok sig) : sig.Minimal := by
  rw [(newSignature_observes scheme key).result] at h
  obtain ⟨form, _, h⟩ := Result.bind_eq_ok.1 h
  obtain ⟨chain, _, rfl⟩ := Result.map_eq_ok.1 h
  exact Signature.minimal_ofNumbers _ _ _

/-- The signatures that are collected from copies are those of transactions that are read. -/
theorem minimal_of_collectAll [Stack] {detailed : Bool} {raws : List Value} {sigs : List Signature}
    (h : (collectAll detailed [] raws t).result = .ok sigs) : ∀ sig ∈ sigs, sig.Minimal := by
  rw [(collectAll_observes detailed [] raws).result] at h
  obtain ⟨copies, hcopies, rfl⟩ := Result.map_eq_ok.1 h
  intro sig hsig
  rcases mem_foldl_collect_iff.1 hsig with hnil | ⟨copy, hcopy, hnew⟩
  · cases hnil
  · obtain ⟨raw, _, hread⟩ := (Result.mem_of_mapM hcopies copy).1 hcopy
    exact minimal_of_decode (copyOf_eq_ok_iff.1 hread).1 (newSignature?_eq_some_iff.1 hnew).1

section Operations

variable [Stack] (hP : ∀ sig : Signature, sig.Minimal → P sig)

include hP

/-- **Attaching** leaves a signature that is mentioned in what is attached, or was there. -/
theorem only_append {x : Value} (hx : x.Only P) (ht : t.Only P) :
    (append x t).transaction.Only P := by
  cases h : t.attach x with
  | error fault =>
      rw [append_of_error h]
      exact ht
  | ok attached =>
      obtain ⟨u, replaced⟩ := attached
      rw [append_of_attach h]
      obtain ⟨_, _, sig, hsig, rfl⟩ := attach_eq_ok_iff.1 h
      exact only_holding t (Signature.of_readAll hP hsig hx sig List.mem_cons_self)

/-- **Signing** leaves a signature that is made of numbers, or was there. -/
theorem only_sign {Key : Type} (scheme : Scheme Key) (key : Key) (ht : t.Only P) :
    (sign scheme key t).transaction.Only P := by
  rw [sign_eq]
  have hnew : (newSignature scheme key t).transaction = t :=
    (newSignature_observes scheme key).transaction t
  refine Action.transaction_of_bind ht fun _ _ => ?_
  rw [(Action.observes_ofExcept _).transaction]
  refine Action.transaction_of_bind (hnew.symm ▸ ht) fun sig hsig => ?_
  rw [hnew]
  have happend := only_append hP (Value.only_signature (hP sig (minimal_of_newSignature hsig))) ht
  exact Action.transaction_of_bind happend fun _ _ => happend

/-- The signature that signing answers with is made of numbers. -/
theorem of_sign {Key : Type} {scheme : Scheme Key} {key : Key} {sig : Signature}
    (h : (sign scheme key t).result = .ok sig) : P sig := by
  rw [sign_eq] at h
  obtain ⟨_, _, h⟩ := Action.exists_of_bind_ok h
  obtain ⟨_, hmade, h⟩ := Action.exists_of_bind_ok h
  obtain ⟨_, _, h⟩ := Action.exists_of_bind_ok h
  cases h
  exact hP _ (minimal_of_newSignature hmade)

/-- **Combining** leaves a signature that is read from a copy, or was there. -/
theorem only_combine (detailed : Bool) (raws : Value) (ht : t.Only P) :
    (combine detailed raws t).transaction.Only P := by
  have hcombine : combine detailed raws t =
      (Action.ofExcept raws.parts >>= fun members =>
        collectAll detailed [] members >>= attachAll) t := rfl
  rw [hcombine]
  refine Action.transaction_of_bind ht fun members _ => ?_
  rw [(Action.observes_ofExcept _).transaction]
  have hcollect : (collectAll detailed [] members t).transaction = t :=
    (collectAll_observes detailed [] members).transaction t
  -- reading the copies leaves the transaction as it is, so only attaching is left
  refine Action.transaction_of_bind (hcollect.symm ▸ ht) fun sigs hsigs => ?_
  rw [hcollect]
  by_cases hsome : sigs = []
  · have hrun : attachAll [] t = encode t := rfl
    rw [hsome, hrun, encode_observes.transaction]
    exact ht
  · have hmentioned : (Value.list (sigs.map .signature)).Only P := by
      refine Value.only_list_iff.2 fun x hx => ?_
      obtain ⟨sig, hsig, rfl⟩ := List.mem_map.1 hx
      exact Value.only_signature (hP sig (minimal_of_collectAll hsigs sig hsig))
    have happend := only_append hP hmentioned ht
    rw [attachAll_eq hsome]
    exact Action.transaction_of_bind happend fun _ _ =>
      (encode_observes.transaction _).symm ▸ happend

end Operations

/-- A property of a transaction mentions its signature only. -/
theorem only_get [Stack] {property : Property} {x : Value} (ht : t.Only P)
    (h : (get property t).result = .ok x) : x.Only P := by
  -- what is computed from a form is plain
  have hform : ∀ {m : Action Bytes} {f : Bytes → Value},
      ((do return f (← m) : Action Value) t).result = .ok x → (∀ form, (f form).Only P) →
        x.Only P := by
    intro m f hresult hf
    obtain ⟨form, _, hresult⟩ := Action.exists_of_bind_ok hresult
    cases hresult
    exact hf form
  cases property with
  | signatures =>
      cases h
      exact only_signaturesValue ht
  | signature =>
      cases h
      rw [signatureValue]
      split
      · next sig hsig => exact Value.only_signature (ht sig hsig)
      · exact Value.only_of_plain rfl
  | commonFields =>
      cases h
      refine Value.only_dict_iff.2 fun entry hentry => ?_
      obtain ⟨field, hfield, rfl⟩ := List.mem_map.1 hentry
      refine ⟨Value.only_of_plain rfl, only_fields ht field ?_⟩
      simp only [fields, List.mem_append]
      exact .inl (.inr hfield)
  | signedText | transactionHash => exact hform h fun _ => Value.only_of_plain rfl
  | signingText | signingHash => exact hform h fun _ => Value.only_of_plain rfl
  | nonce | gasPrice | gas | chainId =>
      cases h
      exact only_optionalValue _
  | _ =>
      cases h
      exact Value.only_of_plain rfl

end Transaction

end PlainTx
