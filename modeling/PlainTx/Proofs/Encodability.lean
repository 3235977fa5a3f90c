/-
**Writing fails for one reason only.**

A transaction is made of fields that mean something, so that nothing about them can go wrong any
more when they are written.  Both forms, and the check that comes first, only fail where something
is not there: a common field that is needed and was never set, or, for the signed form, the
signature.  What is reported is the first field that is unset, in a fixed order, and the signature
after all of them; whether its components are minimal does not matter.

Main definitions:

* `PlainTx.CommonFields.needed` — the common fields that writing needs, in the order of the check;
* `PlainTx.FirstUnset` — the first of some fields that is unset.

Main results:

* `PlainTx.Check.all_eq_ok_iff`, `PlainTx.Check.all_eq_error_iff` — checking fields in a row;
* `PlainTx.Transaction.check_eq_all` — the check of a transaction is one of fields in a row;
* `PlainTx.Transaction.signingForm_eq_error_iff`, `PlainTx.Transaction.signedForm_eq_error_iff` —
  what the two forms fail with;
* `PlainTx.Transaction.encodable_iff_set` — **writing fails for one reason only**.
-/

import PlainTx.Proofs.Operations
import PlainTx.Proofs.Signing

set_option relaxedAutoImplicit false
set_option autoImplicit false

namespace PlainTx

/-! ### Fields in a row -/

/-- The first of some fields that is unset. -/
inductive FirstUnset : List (String × Option Quantity) → String → Prop where
  | here {name : String} {rest : List (String × Option Quantity)} :
      FirstUnset ((name, none) :: rest) name
  | later {name other : String} {q : Quantity} {rest : List (String × Option Quantity)}
      (h : FirstUnset rest name) : FirstUnset ((other, some q) :: rest) name

namespace Check

variable [Stack]

/-- All fields are set; they are checked one after the other. -/
def all : List (String × Option Quantity) → Except Fault Unit
  | [] => .ok ()
  | (name, q) :: rest => do
    quantity name (Quantity.optionalValue q)
    all rest

theorem all_unset (name : String) (rest : List (String × Option Quantity)) :
    all ((name, none) :: rest) = .error (.missing name) := rfl

theorem all_set (name : String) (q : Quantity) (rest : List (String × Option Quantity)) :
    all ((name, some q) :: rest) = all rest := by
  rw [all, quantity_optionalValue]
  rfl

theorem all_eq_ok_iff {fields : List (String × Option Quantity)} :
    all fields = .ok () ↔ ∀ field ∈ fields, field.2.isSome = true := by
  induction fields with
  | nil => exact ⟨fun _ => by simp, fun _ => rfl⟩
  | cons field rest ih =>
      obtain ⟨name, q⟩ := field
      rw [List.forall_mem_cons]
      cases q with
      | none => simp [all_unset]
      | some q => simp [all_set, ih]

/-- **Fields in a row fail at the first that is unset.** -/
theorem all_eq_error_iff {fields : List (String × Option Quantity)} {fault : Fault} :
    all fields = .error fault ↔ ∃ name, FirstUnset fields name ∧ fault = .missing name := by
  induction fields with
  | nil =>
      constructor
      · intro h
        cases h
      · rintro ⟨_, ⟨⟩, _⟩
  | cons field rest ih =>
      obtain ⟨name, q⟩ := field
      cases q with
      | none =>
          rw [all_unset]
          constructor
          · intro h
            cases h
            exact ⟨name, .here, rfl⟩
          · rintro ⟨_, ⟨⟩, rfl⟩
            rfl
      | some q =>
          rw [all_set, ih]
          constructor
          · rintro ⟨first, hfirst, rfl⟩
            exact ⟨first, .later hfirst, rfl⟩
          · rintro ⟨first, hfirst, rfl⟩
            cases hfirst with
            | later hfirst => exact ⟨first, hfirst, rfl⟩

end Check

/-- The common fields that writing needs, in the order in which they are checked. -/
def CommonFields.needed (c : CommonFields) (forSigning : Bool) : List (String × Option Quantity) :=
  [("gas", c.gas), ("gas_price", c.gasPrice), ("nonce", c.nonce)] ++
    if forSigning then [("chain_id", c.chainId)] else []

namespace Transaction

section

variable [Stack] {t : Transaction}

/-- **The check goes through the common fields that are needed.** -/
theorem check_eq_all (t : Transaction) (forSigning : Bool) :
    t.check forSigning = Check.all (t.common.needed forSigning) := by
  rw [check_eq]
  cases forSigning with
  | false => rfl
  | true =>
      have hlast : ∀ x : Except Fault Unit, (x >>= fun _ => .ok ()) = x := by
        intro x
        cases x <;> rfl
      simp only [CommonValues.check, CommonFields.values, CommonFields.needed, if_true,
        List.cons_append, List.nil_append, Check.all, hlast]

theorem forall_needed_iff {forSigning : Bool} :
    (∀ field ∈ t.common.needed forSigning, field.2.isSome = true) ↔
      t.check forSigning = .ok () := by
  rw [check_eq_all, Check.all_eq_ok_iff]

theorem exists_firstUnset_iff {forSigning : Bool} {fault : Fault} :
    (∃ name, FirstUnset (t.common.needed forSigning) name ∧ fault = .missing name) ↔
      t.check forSigning = .error fault := by
  rw [check_eq_all, Check.all_eq_error_iff]

/-! ### The two forms -/

/-- The signing form is written exactly if the check passes. -/
theorem exists_signingForm_iff (hfits : t.SigningFits) :
    (∃ form, t.signingForm = .ok form) ↔ t.check true = .ok () := by
  constructor
  · rintro ⟨form, h⟩
    obtain ⟨_, hcheck, _⟩ := Result.bind_eq_ok.1 h
    exact hcheck
  · intro hcheck
    obtain ⟨hcomplete, hchain⟩ := check_eq_ok_iff.1 hcheck
    obtain ⟨chain, hchain⟩ := Option.isSome_iff_exists.1 (hchain rfl)
    obtain ⟨_, form, _, _, hform⟩ :=
      exists_signingForm hcomplete (congrArg (Option.map Quantity.toNat) hchain) hfits
    exact ⟨form, hform⟩

/-- **The signing form fails like the check.** -/
theorem signingForm_eq_error_iff (hfits : t.SigningFits) {fault : Fault} :
    t.signingForm = .error fault ↔ t.check true = .error fault := by
  cases hcheck : t.check true with
  | ok u =>
      obtain ⟨form, hform⟩ := (exists_signingForm_iff hfits).2 hcheck
      simp [hform]
  | error first => rw [signingForm, hcheck, Result.error_bind]; simp

/-- **The signed form fails like the check**, and after that for want of a signature. -/
theorem signedForm_eq_error_iff (hfits : t.SignedFits) {fault : Fault} :
    t.signedForm = .error fault ↔
      t.check false = .error fault ∨
        t.check false = .ok () ∧ t.signature? = none ∧ fault = .unsigned .encoding := by
  cases hcheck : t.check false with
  | ok u =>
      cases hsig : t.signature? with
      | none =>
          rw [signedForm, hcheck, signedPayload, hsig]
          simp [eq_comm]
      | some sig =>
          have hcomplete := (check_eq_ok_iff.1 hcheck).1
          obtain ⟨form, hform⟩ := (exists_signedForm_iff hfits).2 ⟨by simp [hsig], hcomplete⟩
          simp [hform]
  | error first => rw [signedForm, hcheck, Result.error_bind]; simp

/-- The check before the signed form passes exactly if the fields it needs are set. -/
theorem check_false_eq_ok_iff : t.check false = .ok () ↔ t.common.Complete := by
  simp [check_eq_ok_iff]

/-! ### Writing fails for one reason only -/

/-- **Writing fails for one reason only**: a field that is needed is unset, or there is no
signature. -/
theorem encodable_iff_set (hsigning : t.SigningFits) (hsigned : t.SignedFits) :
    (∀ forSigning, t.check forSigning = .ok () ↔
      ∀ field ∈ t.common.needed forSigning, field.2.isSome = true) ∧
    (∀ forSigning fault, t.check forSigning = .error fault ↔
      ∃ name, FirstUnset (t.common.needed forSigning) name ∧ fault = .missing name) ∧
    ((∃ form, (encodeForSigning t).result = .ok form) ↔
      ∀ field ∈ t.common.needed true, field.2.isSome = true) ∧
    (∀ fault, (encodeForSigning t).result = .error fault ↔
      ∃ name, FirstUnset (t.common.needed true) name ∧ fault = .missing name) ∧
    ((∃ form, (encode t).result = .ok form) ↔
      (∀ field ∈ t.common.needed false, field.2.isSome = true) ∧ t.signature?.isSome = true) ∧
    (∀ fault, (encode t).result = .error fault ↔
      (∃ name, FirstUnset (t.common.needed false) name ∧ fault = .missing name) ∨
      (∀ field ∈ t.common.needed false, field.2.isSome = true) ∧ t.signature? = none ∧
        fault = .unsigned .encoding) ∧
    (Fault.unsigned .encoding).kind? = some .missingField ∧
    (Fault.unsigned .encoding).field? = some (.text "signatures") := by
  refine ⟨fun _ => forall_needed_iff.symm, fun _ _ => exists_firstUnset_iff.symm, ?_, ?_, ?_, ?_,
    rfl, rfl⟩
  · rw [encodeForSigning_observes.result, forall_needed_iff]
    exact exists_signingForm_iff hsigning
  · intro fault
    rw [encodeForSigning_observes.result, exists_firstUnset_iff]
    exact signingForm_eq_error_iff hsigning
  · rw [encode_observes.result, forall_needed_iff, check_false_eq_ok_iff,
      exists_signedForm_iff hsigned]
    exact and_comm
  · intro fault
    rw [encode_observes.result, exists_firstUnset_iff, forall_needed_iff]
    exact signedForm_eq_error_iff hsigned

end

open scoped Stack.Usual

/-- A placeholder that has zeros in front is written like any other signature. -/
theorem encodable_iff_set_unsignedTransfer :
    unsignedTransfer.SigningFits ∧ unsignedTransfer.SignedFits ∧
    unsignedTransfer.signature? = some ⟨[0, 1], [0], [0]⟩ ∧
    (∃ form, (encodeForSigning unsignedTransfer).result = .ok form) ∧
    ∃ form, (encode unsignedTransfer).result = .ok form := by
  have hsigned : unsignedTransfer.SignedFits :=
    signedFits_of_ordinary body_unsignedTransfer ordinary_transferBody rfl (by decide) (by decide)
      (by decide)
  obtain ⟨_, _, hsigning, _, hencode, _⟩ := encodable_iff_set signingFits_unsignedTransfer hsigned
  exact ⟨signingFits_unsignedTransfer, hsigned, rfl, hsigning.2 (by decide),
    hencode.2 ⟨by decide, rfl⟩⟩

end Transaction

end PlainTx
