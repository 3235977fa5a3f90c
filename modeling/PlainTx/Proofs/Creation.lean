/-
**What a transaction is made of.**

A transaction is made from arguments, each of which is read on its own.  The policy comes from the
arguments or from the setting, and the slot of the new transaction is filled at most once: with the
one signature that is given, or not at all if what is given has no parts.

Main results:

* `PlainTx.Value.length_of_parts` — the parts of a value are as many as it has;
* `PlainTx.Arguments.exists_of_ofFields` — what named values are taken for;
* `PlainTx.Transaction.withSignatures_eq_ok_iff` — the slot of a new transaction;
* `PlainTx.Transaction.exists_slot_of_assemble`, `PlainTx.Transaction.create_eq_ok_iff` — **what a
  transaction is made of**.
-/

import PlainTx.Proofs.Slots
import PlainTx.Transaction.Arguments

set_option relaxedAutoImplicit false
set_option autoImplicit false

namespace PlainTx

/-! ### Counting parts -/

/-- The parts of a value are as many as it has. -/
theorem Value.length_of_parts {x : Value} {parts : List Value} (h : x.parts = .ok parts) :
    x.length = .ok parts.length := by
  cases x with
  | none | bool | int | real | policy | entity => cases h
  | text s =>
      cases h
      rw [length, List.length_map, String.length_toList]
  | _ =>
      cases h
      simp [length]

/-- A value that holds a signature has parts. -/
theorem Signature.length_of_readAll [Stack] {x : Value} {sig : Signature} {sigs : List Signature}
    (h : readAll x = .ok (sig :: sigs)) : ∃ n, x.length = .ok (n + 1) := by
  by_cases hsignature : ∃ held, x = .signature held
  · obtain ⟨held, rfl⟩ := hsignature
    exact ⟨2, rfl⟩
  · have hread : readAll x = x.parts >>= fun parts => parts.mapM read := by
      cases x with
      | signature held => exact absurd ⟨held, rfl⟩ hsignature
      | _ => rfl
    obtain ⟨parts, hparts, h⟩ := Result.bind_eq_ok.1 (hread ▸ h)
    cases parts with
    | nil => cases h
    | cons first rest => exact ⟨rest.length, Value.length_of_parts hparts⟩

/-! ### Named arguments -/

/-- The values that choose a policy, or leave the choice open. -/
theorem Policy.ofValue_eq_ok_iff {x : Value} {chosen : Option Policy} :
    ofValue x = .ok chosen ↔ x = optionalValue chosen := by
  constructor
  · intro h
    cases x with
    | none | policy p =>
        cases h
        rfl
    | _ => cases h
  · rintro rfl
    cases chosen <;> rfl

theorem Policy.optionalValue_injective {chosen other : Option Policy}
    (h : optionalValue chosen = optionalValue other) : chosen = other :=
  Except.ok.inj ((ofValue_eq_ok_iff.2 rfl).symm.trans (ofValue_eq_ok_iff.2 h))

/-- **Arguments with names** are the values that are found first under the names, or defaults. -/
theorem Arguments.exists_of_ofFields {fields : List (String × Value)} {a : Arguments}
    (h : ofFields fields = .ok a) :
    ∃ recipient value policy, fields.lookup "to" = some recipient ∧
      fields.lookup "value" = some value ∧
      (fields.lookup "signature_policy").getD .none = Policy.optionalValue policy ∧
      a = {
        recipient, value
        input := (fields.lookup "input").getD (.text Format.emptyInput)
        common := ⟨(fields.lookup "nonce").getD .none, (fields.lookup "gas_price").getD .none,
          (fields.lookup "gas").getD .none, (fields.lookup "chain_id").getD .none⟩
        signatures := (fields.lookup "signatures").getD (.tuple [])
        policy } := by
  simp only [ofFields] at h
  split at h
  · split at h
    · next recipient value hrecipient hvalue =>
        obtain ⟨policy, hpolicy, h⟩ := Result.bind_eq_ok.1 h
        cases h
        exact ⟨recipient, value, policy, hrecipient, hvalue, Policy.ofValue_eq_ok_iff.1 hpolicy,
          rfl⟩
    · cases h
  · cases h

/-! ### The slot of a new transaction -/

namespace Transaction

variable {setting : Option String}

/-- **The slot of a new transaction** takes the one signature that is given, or stays as it is if
what is given has no parts. -/
theorem withSignatures_eq_ok_iff [Stack] {t u : Transaction} {x : Value}
    (havailable : t.slot.available = true) :
    t.withSignatures x = .ok u ↔
      x.length = .ok 0 ∧ u = t ∨
        ∃ sig, Signature.readAll x = .ok [sig] ∧ u = t.holding sig := by
  rw [withSignatures, Result.bind_eq_ok]
  constructor
  · rintro ⟨n, hn, h⟩
    by_cases hzero : n = 0
    · rw [if_pos hzero] at h
      cases h
      exact .inl ⟨hzero ▸ hn, rfl⟩
    · rw [if_neg hzero] at h
      obtain ⟨⟨signed, replaced⟩, hattach, h⟩ := Result.bind_eq_ok.1 h
      cases h
      exact .inr (attach_eq_ok_iff.1 hattach).2.2
  · rintro (⟨hlength, rfl⟩ | ⟨sig, hsig, rfl⟩)
    · exact ⟨0, hlength, rfl⟩
    · obtain ⟨n, hn⟩ := Signature.length_of_readAll hsig
      refine ⟨n + 1, hn, ?_⟩
      rw [if_neg (Nat.succ_ne_zero n), attach_of_available havailable hsig]
      rfl

/-- A transaction that is assembled from fields has these fields, and its slot takes the signature
that is given. -/
theorem exists_slot_of_assemble [Stack] {recipient : Address} {value : Quantity} {input : Bytes}
    {common : CommonFields} {policy : Option Policy} {signatures : Value} {t : Transaction}
    (h : assemble setting recipient value input common policy signatures = .ok t) :
    ∃ slot, t = ⟨recipient, value, input, common, slot⟩ ∧
      (signatures.length = .ok 0 ∧ slot.signature = none ∨
        ∃ sig, Signature.readAll signatures = .ok [sig] ∧ slot.signature = some sig) := by
  obtain ⟨p, _, hp⟩ := Result.bind_eq_ok.1 h
  rcases (withSignatures_eq_ok_iff rfl).1 hp with ⟨hlength, rfl⟩ | ⟨sig, hsig, rfl⟩
  · exact ⟨_, rfl, .inl ⟨hlength, rfl⟩⟩
  · exact ⟨_, rfl, .inr ⟨sig, hsig, rfl⟩⟩

/-! ### Making a transaction -/

/-- **What a transaction is made of**: what each argument is read as. -/
theorem create_eq_ok_iff [Stack] {a : Arguments} {t : Transaction} :
    create setting a = .ok t ↔
      ∃ recipient value input common, Address.read "to" a.recipient = .ok (some recipient) ∧
        Quantity.read "value" a.value = .ok value ∧ CallData.read "input" a.input = .ok input ∧
        CommonFields.read a.common = .ok common ∧
        assemble setting recipient value input common a.policy a.signatures = .ok t := by
  rw [create, Result.bind_eq_ok]
  constructor
  · rintro ⟨recipient, hrecipient, h⟩
    cases recipient with
    | none => cases h
    | some recipient =>
        simp only [Result.bind_eq_ok] at h
        obtain ⟨value, hvalue, input, hinput, common, hcommon, h⟩ := h
        exact ⟨recipient, value, input, common, hrecipient, hvalue, hinput, hcommon, h⟩
  · rintro ⟨recipient, value, input, common, hrecipient, hvalue, hinput, hcommon, h⟩
    refine ⟨some recipient, hrecipient, ?_⟩
    simp only [hvalue, hinput, hcommon, Result.ok_bind]
    exact h

end Transaction

end PlainTx
