/-
**What a transaction can be made of.**

A transaction is made of named values, which are read in a fixed order.  With a policy chosen and no
signatures, nothing but these values decides whether it is made: it is made exactly if each value is
in the grammar of its field, and otherwise the first value that is not is blamed, under the name of
its field.  A value that counts as not given is blamed as missing, and any other as malformed.

Main definitions:

* `PlainTx.CommonValues.entries`, `PlainTx.Arguments.entries` — the values of the fields with their
  grammars, in the order in which they are read.

Main results:

* `PlainTx.CommonFields.decides_read` — the common fields;
* `PlainTx.Transaction.decides_create` — **a transaction is made exactly of what is in the
  grammar**;
* `PlainTx.Transaction.create_exactly` — and the first value that is not is blamed;
* `PlainTx.Transaction.create_longRecipient` — but for one that cannot be printed.
-/

import PlainTx.Proofs.Creation
import PlainTx.Proofs.Grammar

set_option relaxedAutoImplicit false
set_option autoImplicit false

namespace PlainTx

open Result (Decides DecidesAll FirstRefused decidesAll_ok)

/-! ### The values of the fields -/

/-- The values of the common fields, in the order in which they are read. -/
def CommonValues.entries (c : CommonValues) : List Entry :=
  [⟨"nonce", .optionalQuantity, c.nonce⟩, ⟨"gas_price", .optionalQuantity, c.gasPrice⟩,
    ⟨"gas", .optionalQuantity, c.gas⟩, ⟨"chain_id", .optionalQuantity, c.chainId⟩]

/-- The values of the fields, in the order in which they are read. -/
def Arguments.entries (a : Arguments) : List Entry :=
  ⟨"to", .recipient, a.recipient⟩ :: ⟨"value", .quantity, a.value⟩ ::
    ⟨"input", .callData, a.input⟩ :: a.common.entries

/-- **The reader of the common fields decides their grammars.** -/
theorem CommonFields.decides_read [Stack] (c : CommonValues) :
    DecidesAll (read c) Entry.Passes Entry.Refused c.entries := by
  refine (Quantity.decides_readOptional "nonce" c.nonce).cons fun nonce _ =>
    (Quantity.decides_readOptional "gas_price" c.gasPrice).cons fun gasPrice _ =>
      (Quantity.decides_readOptional "gas" c.gas).cons fun gas _ => ?_
  exact (Quantity.decides_readOptional "chain_id" c.chainId).all.bind_pure
    (CommonFields.mk nonce gasPrice gas)

namespace Transaction

variable {setting : Option String} {a : Arguments} {p : Policy}

/-- The fields are read first, and then the transaction is put together. -/
theorem create_eq [Stack] (setting : Option String) (a : Arguments) :
    create setting a = (do
      let recipient ← Address.readSome "to" a.recipient
      let value ← Quantity.read "value" a.value
      let input ← CallData.read "input" a.input
      let common ← CommonFields.read a.common
      assemble setting recipient value input common a.policy a.signatures) := by
  rw [create, Address.readSome]
  cases Address.read "to" a.recipient with
  | error fault => rfl
  | ok recipient =>
      cases recipient with
      | none => rfl
      | some recipient => rfl

/-- Without signatures, a transaction under a policy can always be put together. -/
theorem exists_assembled [Stack] (setting : Option String) {signatures : Value}
    (h : signatures.length = .ok 0) (recipient : Address) (value : Quantity) (input : Bytes)
    (common : CommonFields) :
    ∃ t, assemble setting recipient value input common (some p) signatures = .ok t :=
  ⟨_, (withSignatures_eq_ok_iff rfl).2 (.inl ⟨h, rfl⟩)⟩

/-- **A transaction is made exactly of what is in the grammar**, if a policy is chosen and there are
no signatures. -/
theorem decides_create [Stack] (hpolicy : a.policy = some p)
    (hsignatures : a.signatures.length = .ok 0) :
    DecidesAll (create setting a) Entry.Passes Entry.Refused a.entries := by
  rw [create_eq]
  refine (Address.decides_readSome "to" a.recipient).cons fun recipient _ =>
    (Quantity.decides_read "value" a.value).cons fun value _ =>
      (CallData.decides_read "input" a.input).cons fun input _ => ?_
  rw [← List.append_nil a.common.entries]
  refine (CommonFields.decides_read a.common).bind fun common _ => ?_
  obtain ⟨t, ht⟩ := exists_assembled (p := p) setting hsignatures recipient value input common
  rw [hpolicy, ht]
  exact decidesAll_ok t

/-- What is refused is not in the grammar of its field. -/
theorem not_passes_of_refused [Stack] {e : Entry} (he : e ∈ a.entries) {fault : Fault}
    (h : e.Refused fault) : ¬ e.Passes := by
  simp only [Arguments.entries, CommonValues.entries, List.mem_cons, List.not_mem_nil,
    or_false] at he
  rcases he with rfl | rfl | rfl | rfl | rfl | rfl | rfl
  · exact (Address.decides_readSome "to" a.recipient).not_passes h
  · exact (Quantity.decides_read "value" a.value).not_passes h
  · exact (CallData.decides_read "input" a.input).not_passes h
  · exact (Quantity.decides_readOptional "nonce" a.common.nonce).not_passes h
  · exact (Quantity.decides_readOptional "gas_price" a.common.gasPrice).not_passes h
  · exact (Quantity.decides_readOptional "gas" a.common.gas).not_passes h
  · exact (Quantity.decides_readOptional "chain_id" a.common.chainId).not_passes h

/-- **What counts as not given** among the values that are not taken: none at all, and the empty
address where the recipient belongs. -/
theorem absent_iff {e : Entry} (he : e ∈ a.entries) (h : ¬ e.Passes) :
    e.grammar.Absent e.value ↔
      e.value = .none ∨ e.name = "to" ∧ (e.value = .text "0x" ∨ e.value = .bytes []) := by
  simp only [Arguments.entries, CommonValues.entries, List.mem_cons, List.not_mem_nil,
    or_false] at he
  have hother : ∀ name : String, name ≠ "to" → ∀ x : Value, x = .none ↔
      x = .none ∨ name = "to" ∧ (x = .text "0x" ∨ x = .bytes []) := by
    intro name hname x
    rw [or_iff_left fun h => hname h.1]
  have hoptional : ∀ name : String, name ≠ "to" → ∀ x : Value,
      ¬ Grammar.optionalQuantity.Accepts x → (False ↔
        x = .none ∨ name = "to" ∧ (x = .text "0x" ∨ x = .bytes [])) := by
    intro name hname x hx
    rw [← hother name hname]
    exact ⟨False.elim, fun hnone => hx (.inl hnone)⟩
  rcases he with rfl | rfl | rfl | rfl | rfl | rfl | rfl
  · exact or_congr Iff.rfl (and_iff_right rfl).symm
  · exact hother "value" (by decide) a.value
  · exact hother "input" (by decide) a.input
  · exact hoptional "nonce" (by decide) a.common.nonce h
  · exact hoptional "gas_price" (by decide) a.common.gasPrice h
  · exact hoptional "gas" (by decide) a.common.gas h
  · exact hoptional "chain_id" (by decide) a.common.chainId h

/-- **The first value that is not in the grammar is blamed**: with a policy chosen and no
signatures, a transaction is made exactly if all values are in the grammars of their fields, and
otherwise the fault names the first field that does not take its value.  It says that the value is
missing if none is given, or the empty address where the recipient belongs, and otherwise that it
is malformed, or else that it cannot be printed. -/
theorem create_exactly [Stack] (hpolicy : a.policy = some p)
    (hsignatures : a.signatures.length = .ok 0) :
    ((∃ t, create setting a = .ok t) ↔
      (∃ b, a.recipient.Spells b ∧ b.length = 20) ∧
      ((∃ n, a.value.Gives n) ∧ ∀ b, a.value ≠ .bytes b) ∧
      ((∃ b, a.input.Spells b) ∧ a.input ≠ .text "") ∧
      ∀ x ∈ [a.common.nonce, a.common.gasPrice, a.common.gas, a.common.chainId],
        x = .none ∨ (∃ n, x.Gives n) ∧ ∀ b, x ≠ .bytes b) ∧
    (∀ fault, create setting a = .error fault ↔
      FirstRefused Entry.Passes Entry.Refused a.entries fault) ∧
    (∀ fault, create setting a = .error fault → ∃ before e after,
      a.entries = before ++ e :: after ∧ (∀ earlier ∈ before, earlier.Passes) ∧ ¬ e.Passes ∧
      (fault.field? = some (.text e.name) ∧ fault.kind? = some .missingField ∧
          (e.value = .none ∨ e.name = "to" ∧ (e.value = .text "0x" ∨ e.value = .bytes [])) ∨
        (fault.field? = some (.text e.name) ∧ fault.kind? = some .invalidFormat ∨
            e.value.Unprinted fault) ∧
          e.value ≠ .none ∧ ¬ (e.name = "to" ∧
            (e.value = .text "0x" ∨ e.value = .bytes [])))) := by
  have hdecides : DecidesAll (create setting a) Entry.Passes Entry.Refused a.entries :=
    decides_create hpolicy hsignatures
  refine ⟨?_, hdecides.error_iff, ?_⟩
  · rw [hdecides.ok_iff]
    simp only [Arguments.entries, CommonValues.entries, List.forall_mem_cons, List.not_mem_nil,
      false_imp_iff, implies_true, and_true]
    rfl
  · intro fault hfault
    obtain ⟨before, e, after, hentries, hbefore, hrefused⟩ :=
      Result.firstRefused_iff.1 ((hdecides.error_iff fault).1 hfault)
    have he : e ∈ a.entries := hentries ▸ List.mem_append_right _ List.mem_cons_self
    have hflawed := not_passes_of_refused he hrefused
    have habsent := absent_iff he hflawed
    refine ⟨before, e, after, hentries, hbefore, hflawed, ?_⟩
    rcases hrefused.kind? with ⟨hfield, ⟨hnone, hkind⟩ | ⟨hgiven, hkind⟩⟩ | ⟨hgiven, hunprinted⟩
    · exact .inl ⟨hfield, hkind, habsent.1 hnone⟩
    · exact .inr ⟨.inl ⟨hfield, hkind⟩, not_or.1 (mt habsent.2 hgiven)⟩
    · exact .inr ⟨.inr hunprinted, not_or.1 (mt habsent.2 hgiven)⟩

section Examples

open scoped Stack.Usual

/-- A value of zero, of which only the marker is written, is taken; a truth value is not, but the
empty address is reported first. -/
theorem create_exactly_transfer :
    (∃ t, create none
      { recipient := .bytes (List.replicate 20 0x11), value := .text "0X",
        policy := some .reject } = .ok t) ∧
    create none
      { recipient := .text "0x", value := .bool true, policy := some .reject } =
        .error (.missing "to") := by
  have hvalue : Hex.scan "0X".toList = some (some .upper, []) := by decide
  have hinput : Hex.scan Format.emptyInput.toList = some (some .lower, []) := by decide
  constructor
  · refine (create_exactly (p := .reject) rfl rfl).1.2
      ⟨⟨_, .bytes _, rfl⟩, ⟨⟨_, Value.gives_of_scan hvalue⟩, nofun⟩,
        ⟨⟨_, Value.spells_of_scan hinput rfl⟩, (Value.gives_of_scan hinput).2⟩, ?_⟩
    simp
  · exact ((create_exactly (p := .reject) rfl rfl).2.1 _).2 (.here (.missing (.inr (.inl rfl))))

/-- **A recipient that is not blamed**: it is no address, but there are no words to say so. -/
theorem create_longRecipient :
    create none { recipient := .int Decimal.leastLong, value := .int 0, policy := some .reject } =
        .error .tooManyDigits ∧
      Fault.tooManyDigits.kind? = none ∧ Fault.tooManyDigits.field? = none := by
  have hrecipient : Address.readSome "to" (.int Decimal.leastLong) = .error .tooManyDigits := by
    have hflaw : Address.read "to" (.int Decimal.leastLong) = .error .tooManyDigits :=
      congrArg Except.error (Fault.ofFlaw_of_long rfl Decimal.not_writable_leastLong)
    rw [Address.readSome, hflaw]
    rfl
  refine ⟨?_, rfl, rfl⟩
  rw [create_eq, hrecipient]
  rfl

end Examples

end Transaction

end PlainTx
