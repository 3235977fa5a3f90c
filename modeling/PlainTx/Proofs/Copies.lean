/-
**Signed copies of a transaction.**

A signed copy of a transaction is an input that is read as a transaction with the same fields; the
signature and the chain that it commits to may differ.  Reading copies only looks at the
transaction.  What is collected from them are the new signatures they carry, each of them once: no
placeholders, and not the one that the transaction holds.  In which order the copies come, and how
often, has no say in which signatures these are.

Main definitions:

* `PlainTx.Transaction.IsCopy`, `PlainTx.Transaction.AllCopies` — signed copies;
* `PlainTx.Transaction.copyOf` — the copy an input is read as;
* `PlainTx.Transaction.newSignatures` — the new signatures that inputs carry.

Main results:

* `PlainTx.Transaction.readCopy_observes`, `PlainTx.Transaction.collectAll_observes` — reading
  copies only looks;
* `PlainTx.Transaction.exists_copy` — a transaction that can be written has copies;
* `PlainTx.Transaction.exists_signedForm_of_isCopy` — with the signature of a copy, the transaction
  can be written;
* `PlainTx.Transaction.exists_collected` — **what is collected from copies**.
-/

import Mathlib.Data.Finset.Dedup
import Mathlib.Data.Finset.Card
import PlainTx.Proofs.Canonical
import PlainTx.Proofs.Comparison

set_option relaxedAutoImplicit false
set_option autoImplicit false

namespace PlainTx.Transaction

open PlainTx.Action (Observes observes_pure observes_record observes_ofExcept)

variable {t : Transaction} {raws : List Value} {detailed : Bool}

/-! ### Reading a copy -/

/-- The input is read as a transaction that agrees with this one in everything but the
signature. -/
def IsCopy [Stack] (t : Transaction) (raw : Value) (copy : Transaction) : Prop :=
  decode t.policy raw = .ok copy ∧ t.equalFields copy false = true

/-- All inputs are copies of the transaction. -/
def AllCopies [Stack] (t : Transaction) (raws : List Value) : Prop :=
  ∀ raw ∈ raws, ∃ copy, t.IsCopy raw copy

/-- The copy that an input is read as, or the fault with which it is refused. -/
def copyOf [Stack] (detailed : Bool) (raw : Value) (t : Transaction) :
    Except Fault Transaction := do
  let copy ← decode t.policy raw
  if ← (compare detailed copy false t).result then return copy
  throw .differentCopy

theorem readCopy_observes [Stack] (detailed : Bool) (raw : Value) :
    (readCopy detailed raw).Observes (copyOf detailed raw) := by
  refine Observes.of_current fun t => ⟨_, (observes_ofExcept (decode t.policy raw)).bind fun copy =>
    (observes_record _).bind fun _ => (compare_observes detailed copy false).bind
      (g := fun same _ => if same then .ok copy else .error .differentCopy) fun same => ?_, ?_⟩
  · cases same with
    | true => exact (observes_pure ()).bind fun _ => observes_pure copy
    | false => exact (observes_ofExcept (.error .differentCopy)).bind fun _ => observes_pure copy
  · simp only [copyOf, (compare_observes _ _ _).result, Result.ok_bind]
    rfl

theorem copyOf_eq_ok_iff [Stack] {raw : Value} {copy : Transaction} :
    copyOf detailed raw t = .ok copy ↔ t.IsCopy raw copy := by
  simp only [copyOf, Result.bind_eq_ok, IsCopy]
  constructor
  · rintro ⟨d, hd, same, hsame, h⟩
    cases same with
    | true =>
        cases h
        exact ⟨hd, compare_eq_ok_true_iff.1 hsame⟩
    | false => cases h
  · rintro ⟨hd, hsame⟩
    exact ⟨copy, hd, true, compare_eq_ok_true_iff.2 hsame, rfl⟩

/-! ### Copies can be written -/

/-- A transaction that was read can be written. -/
theorem exists_signedForm_of_decode [Stack] {p : Policy} {x : Value} {d : Transaction}
    (h : decode p x = .ok d) : ∃ body form, d.body = .ok body ∧ d.signedForm = .ok form := by
  obtain ⟨b, body, v, r, s, recipient, _, hread, hrecipient, hd⟩ := decode_eq_ok_iff.1 h
  have hbytes : decode p (.bytes b) = .ok d :=
    decode_eq_ok_iff.2 ⟨b, body, v, r, s, recipient, rfl, hread, hrecipient, hd⟩
  obtain ⟨_, payload, _, _, _, _, _, hform, _⟩ := exists_items_of_decode hbytes
  exact ⟨body, payload.encode, hd ▸ body_ofParts (Address.toBytes_ofBytes? hrecipient), hform⟩

/-- **With the signature of a copy, the transaction can be written**: it has the form of the
copy. -/
theorem exists_signedForm_of_isCopy [Stack] {raw : Value} {copy : Transaction} {sig : Signature}
    (h : t.IsCopy raw copy) (hsig : copy.signature? = some sig) :
    ∃ form, copy.signedForm = .ok form ∧ (t.holding sig).signedForm = .ok form := by
  obtain ⟨body, form, hbody, hform⟩ := exists_signedForm_of_decode h.1
  have hown : (t.holding sig).body = .ok body := ((equalFields_iff_body hbody).1 h.2).1
  refine ⟨form, hform, ?_⟩
  rw [signedForm_of_body hown (holding_signature? t sig), ← hform, signedForm_of_body hbody hsig]

/-- **A transaction that can be written has copies**: what is written for it, with any minimal
signature, is one. -/
theorem exists_copy [Stack] {sig : Signature} (hcomplete : t.common.Complete)
    (hminimal : sig.Minimal) (hfits : (t.holding sig).SignedFits) :
    ∃ form copy, (t.holding sig).signedForm = .ok form ∧ copy.signature? = some sig ∧
      ∀ x, inputBytes x = .ok form → t.IsCopy x copy := by
  have hsig := holding_signature? t sig
  obtain ⟨body, hbody, hfitsPayload⟩ :=
    exists_signedPayload (t := t.holding sig) hcomplete hsig hfits
  obtain ⟨form, recipient, hform, hrecipient, _, hread⟩ :=
    decode_signedForm (t := t.holding sig) hbody hsig hfitsPayload t.policy
  refine ⟨form, ofParts t.policy recipient body sig.v.toNat sig.r.toNat sig.s.toNat, hform,
    (signature_ofParts hsig hminimal).trans hsig, ?_⟩
  intro x hx
  exact ⟨hread x hx, (equalFields_iff_body (body_ofParts hrecipient)).2
    ⟨hbody, fun h => absurd h Bool.false_ne_true⟩⟩

/-! ### New signatures -/

/-- The signature of a copy, if it is new: no placeholder, and not the one that is held. -/
def newSignature? (t copy : Transaction) : Option Signature :=
  match copy.signature? with
  | none => none
  | some sig => if sig.numbers ≠ (1, 0, 0) ∧ t.signature? ≠ some sig then some sig else none

/-- The new signatures that inputs carry. -/
def newSignatures [Stack] (t : Transaction) (raws : List Value) : Finset Signature :=
  (raws.filterMap fun raw => (decode t.policy raw).toOption.bind t.newSignature?).toFinset

theorem newSignature?_eq_some_iff {copy : Transaction} {sig : Signature} :
    t.newSignature? copy = some sig ↔
      copy.signature? = some sig ∧ sig.numbers ≠ (1, 0, 0) ∧ t.signature? ≠ some sig := by
  rw [newSignature?]
  cases copy.signature? with
  | none => simp
  | some held =>
      simp only [Option.ite_none_right_eq_some, Option.some.injEq]
      constructor
      · rintro ⟨hnew, rfl⟩
        exact ⟨rfl, hnew⟩
      · rintro ⟨rfl, hnew⟩
        exact ⟨hnew, rfl⟩

theorem mem_newSignatures_iff [Stack] {sig : Signature} :
    sig ∈ t.newSignatures raws ↔
      ∃ raw ∈ raws, ∃ copy, decode t.policy raw = .ok copy ∧ t.newSignature? copy = some sig := by
  have hread : ∀ raw, (decode t.policy raw).toOption.bind t.newSignature? = some sig ↔
      ∃ copy, decode t.policy raw = .ok copy ∧ t.newSignature? copy = some sig := by
    intro raw
    cases decode t.policy raw <;> simp [Except.toOption]
  simp only [newSignatures, List.mem_toFinset, List.mem_filterMap, hread]

/-- Copies that carry the same signature have one new signature. -/
theorem newSignatures_of_same [Stack] {copy : Transaction} {sig : Signature} (hsome : raws ≠ [])
    (h : ∀ raw ∈ raws, decode t.policy raw = .ok copy) (hnew : t.newSignature? copy = some sig) :
    t.newSignatures raws = {sig} := by
  ext other
  rw [mem_newSignatures_iff, Finset.mem_singleton]
  constructor
  · rintro ⟨raw, hraw, copy', hcopy', hother⟩
    cases (h raw hraw).symm.trans hcopy'
    exact Option.some.inj (hother.symm.trans hnew)
  · rintro rfl
    obtain ⟨raw, hraw⟩ := List.exists_mem_of_ne_nil raws hsome
    exact ⟨raw, hraw, copy, h raw hraw, hnew⟩

/-! ### Collecting signatures -/

/-- A new signature is put behind those that were collected, unless it is one of them. -/
theorem collect_eq (t : Transaction) (collected : List Signature) (copy : Transaction) :
    collect t collected copy =
      match t.newSignature? copy with
      | none => collected
      | some sig => if sig ∈ collected then collected else collected ++ [sig] := by
  have hheld : ∀ sig, sig ∈ t.signatures ↔ t.signature? = some sig := by
    intro sig
    rw [signatures, Slot.signatures, Option.mem_toList, signature?]
  rw [collect, newSignature?]
  cases copy.signature? with
  | none => rfl
  | some sig =>
      simp only [Bool.or_eq_true, Signature.isPlaceholder, beq_iff_eq, List.contains_iff_mem, hheld]
      by_cases hnew : sig.numbers ≠ (1, 0, 0) ∧ t.signature? ≠ some sig
      · simp only [if_pos hnew, hnew.1, hnew.2, false_or]
      · rw [if_neg hnew, if_pos (.inl (by tauto))]

theorem mem_collect_iff {collected : List Signature} {copy : Transaction} {sig : Signature} :
    sig ∈ collect t collected copy ↔ sig ∈ collected ∨ t.newSignature? copy = some sig := by
  rw [collect_eq]
  cases t.newSignature? copy with
  | none => simp
  | some new =>
      simp only [Option.some.injEq]
      split
      · constructor
        · exact .inl
        · rintro (h | rfl)
          · exact h
          · assumption
      · rw [List.mem_append, List.mem_singleton, eq_comm (a := sig)]

theorem nodup_collect {collected : List Signature} (h : collected.Nodup) (copy : Transaction) :
    (collect t collected copy).Nodup := by
  rw [collect_eq]
  cases t.newSignature? copy with
  | none => exact h
  | some new =>
      simp only
      split
      · exact h
      · next hnew => exact List.concat_eq_append ▸ h.concat hnew

/-- The signatures of some copies, behind those that were collected before. -/
theorem collectAll_observes [Stack] (detailed : Bool) (collected : List Signature)
    (raws : List Value) :
    (collectAll detailed collected raws).Observes fun t =>
      (raws.mapM fun raw => copyOf detailed raw t).map (List.foldl (collect t) collected) := by
  induction raws generalizing collected with
  | nil => exact observes_pure collected
  | cons raw rest ih =>
      refine ((readCopy_observes detailed raw).bind
        (g := fun copy t => (rest.mapM fun raw => copyOf detailed raw t).map
          (List.foldl (collect t) (collect t collected copy)))
        fun copy => Observes.of_current fun t => ⟨_, ih (collect t collected copy), rfl⟩).congr ?_
      intro t
      rw [List.mapM_cons]
      cases copyOf detailed raw t with
      | error fault => rfl
      | ok copy =>
          rw [Result.ok_bind, Result.ok_bind]
          cases rest.mapM fun raw => copyOf detailed raw t <;> rfl

theorem mem_foldl_collect_iff {collected : List Signature} {copies : List Transaction}
    {sig : Signature} :
    sig ∈ copies.foldl (collect t) collected ↔
      sig ∈ collected ∨ ∃ copy ∈ copies, t.newSignature? copy = some sig := by
  induction copies generalizing collected with
  | nil => simp
  | cons copy rest ih => simp [ih, mem_collect_iff, or_assoc]

theorem nodup_foldl_collect {collected : List Signature} (h : collected.Nodup)
    (copies : List Transaction) : (copies.foldl (collect t) collected).Nodup := by
  induction copies generalizing collected with
  | nil => exact h
  | cons copy rest ih => exact ih (nodup_collect h copy)

/-- **What is collected from copies**: each new signature that they carry, once. -/
theorem exists_collected [Stack] (detailed : Bool) (h : t.AllCopies raws) :
    ∃ sigs : List Signature, (collectAll detailed [] raws t).result = .ok sigs ∧ sigs.Nodup ∧
      sigs.toFinset = t.newSignatures raws := by
  obtain ⟨copies, hcopies⟩ : ∃ copies, (raws.mapM fun raw => copyOf detailed raw t) = .ok copies :=
    Result.exists_mapM_iff.2 fun raw hraw => (h raw hraw).imp fun _ => copyOf_eq_ok_iff.2
  refine ⟨copies.foldl (collect t) [], ?_, nodup_foldl_collect List.nodup_nil copies, ?_⟩
  · rw [(collectAll_observes detailed [] raws).result, hcopies]
    rfl
  · ext sig
    simp only [List.mem_toFinset, mem_foldl_collect_iff, List.not_mem_nil, false_or,
      mem_newSignatures_iff, Result.mem_of_mapM hcopies, copyOf_eq_ok_iff]
    constructor
    · rintro ⟨copy, ⟨raw, hraw, hcopy⟩, hnew⟩
      exact ⟨raw, hraw, copy, hcopy.1, hnew⟩
    · rintro ⟨raw, hraw, copy, hdecode, hnew⟩
      -- an input is read as one transaction only
      obtain ⟨read, hread⟩ := h raw hraw
      cases hread.1.symm.trans hdecode
      exact ⟨copy, ⟨raw, hraw, hread⟩, hnew⟩

/-- Where one input is no copy, nothing is collected. -/
theorem exists_fault_of_collectAll [Stack] (detailed : Bool) (h : ¬ t.AllCopies raws) :
    ∃ fault, (collectAll detailed [] raws t).result = .error fault := by
  rw [(collectAll_observes detailed [] raws).result]
  cases hcopies : raws.mapM fun raw => copyOf detailed raw t with
  | error fault => exact ⟨fault, rfl⟩
  | ok copies =>
      refine absurd (fun raw hraw => ?_) h
      obtain ⟨copy, hcopy⟩ := Result.exists_mapM_iff.1 ⟨copies, hcopies⟩ raw hraw
      exact ⟨copy, copyOf_eq_ok_iff.1 hcopy⟩

/-! ### The same inputs in another order -/

theorem allCopies_congr [Stack] {raws' : List Value} (h : ∀ raw, raw ∈ raws' ↔ raw ∈ raws) :
    t.AllCopies raws' ↔ t.AllCopies raws := by
  simp only [AllCopies, h]

theorem newSignatures_congr [Stack] {raws' : List Value} (h : ∀ raw, raw ∈ raws' ↔ raw ∈ raws) :
    t.newSignatures raws' = t.newSignatures raws := by
  ext sig
  simp only [mem_newSignatures_iff, h]

end PlainTx.Transaction
