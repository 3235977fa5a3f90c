/-
**What comparing compares.**

Two transactions agree exactly if their quantities are the same numbers, their recipients the same
bytes and their call data the same, and, if asked for, their signatures.

Main results:

* `PlainTx.Transaction.equalFields_iff` — **when two transactions agree**;
* `PlainTx.Transaction.equalFields_iff_body` — agreeing with a transaction that has a body;
* `PlainTx.Transaction.compare_of_equal` — comparing transactions that agree.
-/

import PlainTx.Proofs.Operations
import PlainTx.Proofs.Spelling

set_option relaxedAutoImplicit false
set_option autoImplicit false

namespace PlainTx.Transaction

theorem mismatch_eq_nil_iff {field : String} {same : Bool} {left right : Value} :
    mismatch field same left right = [] ↔ same = true := by
  cases same <;> simp [mismatch]

theorem commonMismatch_eq_nil_iff {field : String} {left right : Option Quantity} :
    commonMismatch field left right = [] ↔ left.map Quantity.toNat = right.map Quantity.toNat := by
  rw [commonMismatch, mismatch_eq_nil_iff, beq_iff_eq]

theorem signatures_eq_iff {t u : Transaction} :
    t.signatures = u.signatures ↔ t.signature? = u.signature? := by
  rw [signatures, signatures, Slot.signatures, Slot.signatures, signature?, signature?]
  cases t.slot.signature <;> cases u.slot.signature <;> simp

/-- **Two transactions agree** exactly if all fields that are compared mean the same. -/
theorem equalFields_iff {t u : Transaction} {checkSignature : Bool} :
    t.equalFields u checkSignature = true ↔
      t.common.nonce.map Quantity.toNat = u.common.nonce.map Quantity.toNat ∧
      t.common.gasPrice.map Quantity.toNat = u.common.gasPrice.map Quantity.toNat ∧
      t.common.gas.map Quantity.toNat = u.common.gas.map Quantity.toNat ∧
      t.recipient.toBytes = u.recipient.toBytes ∧ t.value.toNat = u.value.toNat ∧
      t.input = u.input ∧ (checkSignature = true → t.signature? = u.signature?) := by
  have hsignature : (if checkSignature then
        mismatch "signatures" (t.signatures == u.signatures) t.signaturesValue u.signaturesValue
      else []) = [] ↔ (checkSignature = true → t.signature? = u.signature?) := by
    cases checkSignature with
    | false => simp
    | true => simp [mismatch_eq_nil_iff, signatures_eq_iff]
  simp only [equalFields, List.isEmpty_iff, difference, List.append_eq_nil_iff, hsignature,
    commonMismatch_eq_nil_iff, mismatch_eq_nil_iff, Address.agrees_iff, beq_iff_eq, and_assoc]

/-- A transaction agrees with one that has a body exactly if it has the same body, and, if asked
for, the same signature. -/
theorem equalFields_iff_body {t u : Transaction} {body : Payload.Body} {checkSignature : Bool}
    (hbody : u.body = .ok body) :
    t.equalFields u checkSignature = true ↔
      t.body = .ok body ∧ (checkSignature = true → t.signature? = u.signature?) := by
  obtain ⟨hnonce, hgasPrice, hgas, hrecipient, hvalue, hinput⟩ := body_eq_ok_iff.1 hbody
  simp only [equalFields_iff, body_eq_ok_iff, hnonce, hgasPrice, hgas, hrecipient, hvalue, hinput,
    and_assoc]

theorem equalFields_comm (t u : Transaction) (checkSignature : Bool) :
    t.equalFields u checkSignature = u.equalFields t checkSignature := by
  have hsymm : ∀ {t u : Transaction}, t.equalFields u checkSignature = true →
      u.equalFields t checkSignature = true := by
    intro t u h
    obtain ⟨hn, hp, hg, hr, hv, hd, hs⟩ := equalFields_iff.1 h
    exact equalFields_iff.2
      ⟨hn.symm, hp.symm, hg.symm, hr.symm, hv.symm, hd.symm, fun h => (hs h).symm⟩
  exact Bool.eq_iff_iff.2 ⟨hsymm, hsymm⟩

/-- Comparing says that two transactions are equal exactly if they agree. -/
theorem compare_eq_ok_true_iff {t u : Transaction} {checkSignature detailed : Bool} :
    (compare detailed u checkSignature t).result = .ok true ↔
      t.equalFields u checkSignature = true := by
  rw [(compare_observes detailed u checkSignature).result]
  constructor
  · intro h
    split at h
    · assumption
    · split at h
      · cases hwritable : (t.difference u checkSignature).requireWritable with
        | error fault => rw [hwritable] at h; cases h
        | ok d => rw [hwritable] at h; cases h
      · cases h
  · intro h
    rw [if_pos h]

/-- Comparing transactions that do not agree: only a detailed journal can be in the way of the
answer. -/
theorem compare_of_unequal {t u : Transaction} {checkSignature detailed : Bool}
    (h : ¬ t.equalFields u checkSignature = true) :
    (compare detailed u checkSignature t).result = .ok false ∨
      detailed = true ∧ (compare detailed u checkSignature t).result = .error .tooManyDigits := by
  rw [(compare_observes detailed u checkSignature).result, if_neg h]
  cases detailed with
  | false => exact .inl rfl
  | true =>
      rw [if_pos rfl, Difference.requireWritable]
      split
      · exact .inl rfl
      · exact .inr ⟨rfl, rfl⟩

theorem compare_of_equal {t u : Transaction} {checkSignature : Bool} (detailed : Bool)
    (h : t.equalFields u checkSignature = true) :
    (compare detailed u checkSignature t).result = .ok true :=
  compare_eq_ok_true_iff.2 h

end PlainTx.Transaction
