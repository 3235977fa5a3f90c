/-
**Copies field by field.**

A transaction is created one field at a time: what it stores for a field depends on the value that
is given for this field, and on nothing else that is given.  The stored value is read as itself
again, in whichever spelling it is stored.  So a copy with no value exchanged is the transaction
itself, to the letter; a copy with some values exchanged stores for each of these what any
transaction stores that is created from the value, and for the others what the transaction stores.
Copying adds a transaction to a session, or fails, and leaves the original alone.

Main definitions:

* `PlainTx.Arguments.given` — the value that is given for a field;
* `PlainTx.Arguments.ReadAs` — a transaction has, field by field, what the arguments are read as;
* `PlainTx.Transaction.arguments` — what a transaction stores, as arguments.

Main results:

* `PlainTx.Transaction.create_eq_ok_iff_readAs` — **creating, field by field**;
* `PlainTx.Transaction.stored_congr` — equal values are stored as equal values;
* `PlainTx.Transaction.create_arguments` — **what is stored is read as itself**;
* `PlainTx.Transaction.copy_of_unknown` — names that are none;
* `PlainTx.Session.things_step_copy` — the original stays where it is;
* `PlainTx.Session.copy_exactly` — **copies, exactly**.
-/

import PlainTx.Proofs.Markers
import PlainTx.Proofs.Sessions

set_option relaxedAutoImplicit false
set_option autoImplicit false

namespace PlainTx

open Builder (Field)

/-! ### Creating, field by field -/

/-- What a value gives for the signatures of a new transaction: none if it has no parts, and
otherwise the one that it holds. -/
def Signature.GivenAs [Stack] (x : Value) (o : Option Signature) : Prop :=
  x.length = .ok 0 ∧ o = none ∨ ∃ sig, readAll x = .ok [sig] ∧ o = some sig

theorem Signature.GivenAs.unique [Stack] {x : Value} {o o' : Option Signature} (h : GivenAs x o)
    (h' : GivenAs x o') : o = o' := by
  have hparts : ∀ {sig}, x.length = .ok 0 → readAll x ≠ .ok [sig] := fun hlength hsig => by
    obtain ⟨n, hn⟩ := length_of_readAll hsig
    cases hlength.symm.trans hn
  rcases h with ⟨hlength, rfl⟩ | ⟨sig, hsig, rfl⟩
  · rcases h' with ⟨_, rfl⟩ | ⟨sig', hsig', rfl⟩
    · rfl
    · exact absurd hsig' (hparts hlength)
  · rcases h' with ⟨hlength, rfl⟩ | ⟨sig', hsig', rfl⟩
    · exact absurd hsig (hparts hlength)
    · cases hsig.symm.trans hsig'
      rfl

namespace Arguments

/-- The value that is given for a field. -/
def given (a : Arguments) : Field → Value
  | .recipient => a.recipient
  | .value => a.value
  | .input => a.input
  | .nonce => a.common.nonce
  | .gas => a.common.gas
  | .gasPrice => a.common.gasPrice
  | .chainId => a.common.chainId
  | .signatures => a.signatures
  | .policy => Policy.optionalValue a.policy

/-- **A transaction has, field by field, what the arguments are read as.** -/
structure ReadAs [Stack] (setting : Option String) (a : Arguments) (t : Transaction) : Prop where
  recipient : Address.read "to" a.recipient = .ok (some t.recipient)
  value : Quantity.read "value" a.value = .ok t.value
  input : CallData.read "input" a.input = .ok t.input
  nonce : Quantity.readOptional "nonce" a.common.nonce = .ok t.common.nonce
  gasPrice : Quantity.readOptional "gas_price" a.common.gasPrice = .ok t.common.gasPrice
  gas : Quantity.readOptional "gas" a.common.gas = .ok t.common.gas
  chainId : Quantity.readOptional "chain_id" a.common.chainId = .ok t.common.chainId
  policy : Policy.choose setting a.policy = .ok t.policy
  owner : t.slot.owner = Format.transactionType
  signatures : Signature.GivenAs a.signatures t.signature?

/-- What is found under the name of a field is given for it. -/
theorem given_of_ofFields {fields : List (String × Value)} {a : Arguments}
    (h : ofFields fields = .ok a) {field : Field} {x : Value}
    (hx : fields.lookup field.name = some x) : a.given field = x := by
  obtain ⟨recipient, value, policy, hrecipient, hvalue, hpolicy, rfl⟩ := exists_of_ofFields h
  cases field with
  | recipient => exact Option.some.inj (hrecipient.symm.trans hx)
  | value => exact Option.some.inj (hvalue.symm.trans hx)
  | policy => exact hpolicy.symm.trans (congrArg (Option.getD · _) hx)
  | _ => exact (congrArg (Option.getD · _) hx)

end Arguments

namespace Transaction

variable {setting : Option String} {a b : Arguments} {t u : Transaction}

/-- **Creating, field by field.** -/
theorem create_eq_ok_iff_readAs [Stack] : create setting a = .ok t ↔ a.ReadAs setting t := by
  rw [create_eq_ok_iff]
  constructor
  · rintro ⟨recipient, value, input, common, hrecipient, hvalue, hinput, hcommon, h⟩
    obtain ⟨hnonce, hgasPrice, hgas, hchainId⟩ := CommonFields.read_eq_ok_iff.1 hcommon
    obtain ⟨p, hp, h⟩ := Result.bind_eq_ok.1 h
    rcases (withSignatures_eq_ok_iff rfl).1 h with ⟨hlength, rfl⟩ | ⟨sig, hsig, rfl⟩
    · exact ⟨hrecipient, hvalue, hinput, hnonce, hgasPrice, hgas, hchainId, hp, rfl,
        .inl ⟨hlength, rfl⟩⟩
    · exact ⟨hrecipient, hvalue, hinput, hnonce, hgasPrice, hgas, hchainId, hp, rfl,
        .inr ⟨sig, hsig, rfl⟩⟩
  · intro h
    refine ⟨t.recipient, t.value, t.input, t.common, h.recipient, h.value, h.input,
      CommonFields.read_eq_ok_iff.2 ⟨h.nonce, h.gasPrice, h.gas, h.chainId⟩,
      Result.bind_eq_ok.2 ⟨t.policy, h.policy, (withSignatures_eq_ok_iff rfl).2 ?_⟩⟩
    obtain ⟨recipient, value, input, common, policy, owner, signature⟩ := t
    obtain rfl : owner = Format.transactionType := h.owner
    rcases h.signatures with ⟨hlength, hsignature⟩ | ⟨sig, hsig, hsignature⟩
    · obtain rfl : signature = none := hsignature
      exact .inl ⟨hlength, rfl⟩
    · obtain rfl : signature = some sig := hsignature
      exact .inr ⟨sig, hsig, rfl⟩

/-- **Equal values are stored as equal values**, whatever is given for the other fields. -/
theorem stored_congr [Stack] (ha : create setting a = .ok t) (hb : create setting b = .ok u)
    {field : Field} (h : a.given field = b.given field) : t.stored field = u.stored field := by
  have ha := create_eq_ok_iff_readAs.1 ha
  have hb := create_eq_ok_iff_readAs.1 hb
  cases field with
  | recipient =>
      have hsame := Option.some.inj (Result.eq_of_ok ha.recipient hb.recipient h)
      exact congrArg (fun r => Value.text (Address.text r)) hsame
  | value => exact congrArg Quantity.value (Result.eq_of_ok ha.value hb.value h)
  | input =>
      exact congrArg (fun data => Value.text (CallData.text data))
        (Result.eq_of_ok ha.input hb.input h)
  | nonce => exact congrArg Quantity.optionalValue (Result.eq_of_ok ha.nonce hb.nonce h)
  | gas => exact congrArg Quantity.optionalValue (Result.eq_of_ok ha.gas hb.gas h)
  | gasPrice => exact congrArg Quantity.optionalValue (Result.eq_of_ok ha.gasPrice hb.gasPrice h)
  | chainId => exact congrArg Quantity.optionalValue (Result.eq_of_ok ha.chainId hb.chainId h)
  | signatures =>
      have hsame : t.signature? = u.signature? := by
        have hgiven : Signature.GivenAs a.signatures u.signature? :=
          (show a.signatures = b.signatures from h) ▸ hb.signatures
        exact ha.signatures.unique hgiven
      exact congrArg (fun o => Value.tuple ((Option.toList o).map .signature)) hsame
  | policy =>
      have hsame : t.policy = u.policy :=
        Result.eq_of_ok ha.policy hb.policy (Policy.optionalValue_injective h)
      exact congrArg Value.policy hsame

/-- A common field for which no value is given is not set. -/
theorem stored_of_none [Stack] (ha : create setting a = .ok t) {field : Field}
    (hfield : field ∈ [Field.nonce, .gas, .gasPrice, .chainId]) (h : a.given field = .none) :
    t.stored field = .none := by
  have ha := create_eq_ok_iff_readAs.1 ha
  have hunset : ∀ {name : String} {x : Value} {q : Option Quantity}, x = .none →
      Quantity.readOptional name x = .ok q → Quantity.optionalValue q = .none := by
    rintro name _ q rfl hq
    cases hq
    rfl
  simp only [List.mem_cons, List.not_mem_nil, or_false] at hfield
  rcases hfield with rfl | rfl | rfl | rfl
  · exact hunset h ha.nonce
  · exact hunset h ha.gas
  · exact hunset h ha.gasPrice
  · exact hunset h ha.chainId

/-- A transaction for which no signatures are given has none. -/
theorem signatures_of_empty [Stack] (ha : create setting a = .ok t) (h : a.signatures = .tuple []) :
    t.signatures = [] := by
  have hgiven : Signature.GivenAs (.tuple []) t.signature? :=
    h ▸ (create_eq_ok_iff_readAs.1 ha).signatures
  exact congrArg Option.toList (hgiven.unique (.inl ⟨rfl, rfl⟩))

/-! ### What is stored is read as itself -/

/-- What a transaction stores, as arguments. -/
def arguments (t : Transaction) : Arguments where
  recipient := .text t.recipient.text
  value := t.value.value
  input := .text (CallData.text t.input)
  common := t.common.values
  signatures := t.signaturesValue
  policy := some t.policy

theorem given_arguments (t : Transaction) (field : Field) :
    t.arguments.given field = t.stored field := by
  cases field <;> rfl

theorem givenAs_signaturesValue [Stack] (t : Transaction) :
    Signature.GivenAs t.signaturesValue t.signature? := by
  have hvalue : t.signaturesValue = .tuple (t.signature?.toList.map .signature) := rfl
  rw [hvalue]
  cases t.signature? with
  | none => exact .inl ⟨rfl, rfl⟩
  | some sig => exact .inr ⟨sig, rfl, rfl⟩

/-- **What is stored is read as itself**, however it is spelled and whatever the setting is. -/
theorem create_arguments [Stack] (setting : Option String)
    (h : t.slot.owner = Format.transactionType) :
    create setting t.arguments = .ok t :=
  create_eq_ok_iff_readAs.2
    { recipient := Address.read_optionalText "to" (some t.recipient)
      value := Quantity.read_value "value" t.value
      input := CallData.read_text "input" t.input
      nonce := Quantity.readOptional_optionalValue "nonce" t.common.nonce
      gasPrice := Quantity.readOptional_optionalValue "gas_price" t.common.gasPrice
      gas := Quantity.readOptional_optionalValue "gas" t.common.gas
      chainId := Quantity.readOptional_optionalValue "chain_id" t.common.chainId
      policy := rfl
      owner := h
      signatures := t.givenAs_signaturesValue }

/-- Slots of transactions have one and the same owner. -/
theorem owner_of_made [Stack] {given : Field → Option Value} (h : t.Made given) :
    t.slot.owner = Format.transactionType := by
  induction h with
  | create _ h => exact (create_eq_ok_iff_readAs.1 h).owner
  | build hb h =>
      rw [Builder.build_of_collected hb.collected, Builder.createGiven] at h
      split at h
      · cases h
      · cases h
      · obtain ⟨_, _, h⟩ := Result.bind_eq_ok.1 h
        exact (create_eq_ok_iff_readAs.1 h).owner
  | decode h =>
      obtain ⟨p, hp⟩ := exists_policy_of_decodeWith h
      obtain ⟨_, body, v, r, s, recipient, _, _, _, rfl⟩ := decode_eq_ok_iff.1 (hp _ ▸ h)
      rfl
  | copy _ h _ =>
      simp only [copy] at h
      split at h
      · obtain ⟨_, _, h⟩ := Result.bind_eq_ok.1 h
        exact (create_eq_ok_iff_readAs.1 h).owner
      · cases h
  | operate _ h ih =>
      obtain ⟨slot, hslot, rfl⟩ := h
      rcases hslot with rfl | ⟨_, sig, rfl⟩
      · exact ih
      · exact ih

/-! ### Copies -/

variable {overrides : List (String × Value)}

theorem lookup_fields (t : Transaction) (field : Field) :
    t.fields.lookup field.name = some (t.stored field) := by
  cases field <;> rfl

/-- A copy is created from the values that are given, and from what is stored where none is. -/
theorem exists_arguments_of_copy [Stack] (h : t.copy setting overrides = .ok u) :
    ∃ a, create setting a = .ok u ∧
      ∀ field : Field, a.given field = (overrides.lookup field.name).getD (t.stored field) := by
  simp only [copy] at h
  split at h
  · obtain ⟨a, ha, h⟩ := Result.bind_eq_ok.1 h
    refine ⟨a, h, fun field => Arguments.given_of_ofFields ha ?_⟩
    rw [List.lookup_append, lookup_fields]
    cases overrides.lookup field.name <;> rfl
  · cases h

/-- The names that are no arguments. -/
def unknownNames (overrides : List (String × Value)) : List String :=
  (overrides.map Prod.fst).filter fun name => !Arguments.names.contains name

/-- **Names that are no arguments** are reported in order, whatever else is given. -/
theorem copy_of_unknown [Stack] (setting : Option String) (t : Transaction)
    (h : unknownNames overrides ≠ []) :
    t.copy setting overrides =
      .error (.unknownFields ((unknownNames overrides).mergeSort fun x y => decide (x ≤ y))) := by
  have hsome : (unknownNames overrides).isEmpty = false := List.isEmpty_eq_false_iff.2 h
  rw [copy, ← unknownNames, hsome]
  rfl

theorem pairwise_sorted (names : List String) :
    (names.mergeSort fun x y => decide (x ≤ y)).Pairwise (· ≤ ·) := by
  refine (List.pairwise_mergeSort ?_ ?_ names).imp fun h => of_decide_eq_true h
  · intro x y z hxy hyz
    rw [decide_eq_true_eq] at hxy hyz ⊢
    exact String.le_trans hxy hyz
  · intro x y
    rw [Bool.or_eq_true, decide_eq_true_eq, decide_eq_true_eq]
    exact String.le_total x y

end Transaction

namespace Session

/-! ### Copies through a session -/

/-- Copying adds a transaction to a session, or leaves the session as it was. -/
theorem session_of_copy [Stack] (scheme : Scheme PrivateKey) (s : Session) (target : String)
    (overrides : List (String × Operand)) :
    (perform scheme s target (.onTransaction (.copy overrides))).session = s ∨
      ∃ thing, (perform scheme s target (.onTransaction (.copy overrides))).session =
        (s.add thing).1 := by
  rw [perform]
  cases s.transaction target with
  | error fault => exact .inl rfl
  | ok found =>
      simp only [Effect.andThen, performTransaction]
      cases s.resolveFields overrides with
      | error fault => exact .inl rfl
      | ok fields =>
          simp only
          cases checkArguments fields with
          | error fault => exact .inl rfl
          | ok u =>
              simp only [Effect.transaction, Effect.andThen]
              cases found.2.copy s.setting fields with
              | error fault => exact .inl rfl
              | ok t => exact .inr ⟨.transaction t, rfl⟩

/-- **Copying leaves everything where it is**, whether it succeeds or fails. -/
theorem things_step_copy [Stack] (scheme : Scheme PrivateKey) {s : Session} {x : Step}
    {overrides : List (String × Operand)} (hx : x.command = .onTransaction (.copy overrides))
    {number : Nat} {thing : Thing} (h : s.things[number]? = some thing) :
    (s.step scheme x).2.things[number]? = some thing := by
  obtain ⟨hlt, _⟩ := List.getElem?_eq_some_iff.1 h
  have hperform : (perform scheme s (x.target.getD "") x.command).session.things[number]? =
      some thing := by
    rw [hx]
    rcases session_of_copy scheme s (x.target.getD "") overrides with hsame | ⟨added, hadd⟩
    · rw [hsame]
      exact h
    · rw [hadd]
      exact (List.getElem?_append_left hlt).trans h
  rw [step]
  simp only
  split
  · exact hperform
  · exact hperform

/-! ### Copies, exactly -/

open PlainTx.Transaction (create stored unknownNames upperTransfer)

/-- **Copies, exactly**, of a transaction that was made in any way.  With nothing exchanged the copy
is the transaction itself, whatever the setting is.  Otherwise, if there is one, it is created from
the values that are given: it stores for these what any transaction stores that is created from
them, and what the original stores for all other fields.  Names of no fields are reported in order,
whatever else is given; and the original stays in the session as it is. -/
theorem copy_exactly [Stack] {t : Transaction} {given : Field → Option Value} (h : t.Made given) :
    (∀ setting, t.copy setting [] = .ok t) ∧
    (∀ setting overrides u, t.copy setting overrides = .ok u →
      (∃ a, create setting a = .ok u ∧ ∀ (field : Field) (x : Value),
        overrides.lookup field.name = some x → a.given field = x) ∧
      (∀ (field : Field) (x : Value) (a : Arguments) (w : Transaction),
        overrides.lookup field.name = some x → create setting a = .ok w → a.given field = x →
          u.stored field = w.stored field) ∧
      (∀ field : Field, overrides.lookup field.name = none → u.stored field = t.stored field) ∧
      (∀ field ∈ [Field.nonce, .gas, .gasPrice, .chainId],
        overrides.lookup field.name = some .none → u.stored field = .none) ∧
      (overrides.lookup "signatures" = some (.tuple []) → u.signatures = [])) ∧
    (∀ setting overrides, unknownNames overrides ≠ [] → ∃ names,
      t.copy setting overrides = .error (.unknownFields names) ∧
      names.Perm (unknownNames overrides) ∧ names.Pairwise (· ≤ ·) ∧
      (Fault.unknownFields names).message =
        "Unknown LegacyTransaction fields: " ++ ", ".intercalate names) ∧
    (∀ (scheme : Scheme PrivateKey) (s : Session) (x : Step) (overrides : List (String × Operand))
        (number : Nat), x.command = .onTransaction (.copy overrides) →
      s.things[number]? = some (.transaction t) →
        (s.step scheme x).2.things[number]? = some (.transaction t)) := by
  have howner := Transaction.owner_of_made h
  refine ⟨fun setting => Transaction.create_arguments setting howner, ?_, ?_, ?_⟩
  · intro setting overrides u hcopy
    obtain ⟨a, ha, hgiven⟩ := Transaction.exists_arguments_of_copy hcopy
    have hoverridden : ∀ {field : Field} {x : Value}, overrides.lookup field.name = some x →
        a.given field = x := fun {field x} hx => by rw [hgiven field, hx]; rfl
    refine ⟨⟨a, ha, fun field x hx => hoverridden hx⟩, ?_, ?_, ?_, ?_⟩
    · intro field x b w hx hb hbx
      exact Transaction.stored_congr ha hb ((hoverridden hx).trans hbx.symm)
    · intro field hnone
      refine Transaction.stored_congr ha (Transaction.create_arguments setting howner) ?_
      rw [hgiven field, hnone, Transaction.given_arguments]
      rfl
    · intro field hfield hnone
      exact Transaction.stored_of_none ha hfield (hoverridden hnone)
    · intro hempty
      have hsignatures : a.given .signatures = .tuple [] := hoverridden hempty
      exact Transaction.signatures_of_empty ha hsignatures
  · intro setting overrides hunknown
    exact ⟨_, Transaction.copy_of_unknown setting t hunknown, List.mergeSort_perm _ _,
      Transaction.pairwise_sorted _, rfl⟩
  · intro scheme s x overrides number hx
    exact things_step_copy scheme hx

open scoped Stack.Usual

/-- A transaction with the other marker and a signature that is not minimal is copied to the letter,
under a setting that gives no policy; a copy for which no signatures are given has none; and a name
of no field is reported although the value that is given besides cannot be read. -/
theorem copy_exactly_upperTransfer :
    (upperTransfer.holding ⟨[0, 37], [5], [6]⟩).copy (some "nonsense") [] =
        .ok (upperTransfer.holding ⟨[0, 37], [5], [6]⟩) ∧
      (∃ u, (upperTransfer.holding ⟨[0, 37], [5], [6]⟩).copy none [("signatures", .tuple [])] =
        .ok u ∧ u.signatures = [] ∧ u.stored .value = .text "0X3") ∧
      ∃ names, (upperTransfer.holding ⟨[0, 37], [5], [6]⟩).copy none
        [("value", .bool true), ("data", .none)] = .error (.unknownFields names) ∧
          names.Perm ["data"] := by
  have hmade : (upperTransfer.holding ⟨[0, 37], [5], [6]⟩).Made _ :=
    .operate Transaction.made_of_upperFields (Transaction.reaches_holding rfl _)
  obtain ⟨hsame, hcopy, hunknown, _⟩ := copy_exactly hmade
  refine ⟨hsame _, ?_, ?_⟩
  · have hdropped : (upperTransfer.holding ⟨[0, 37], [5], [6]⟩).copy none
        [("signatures", .tuple [])] = .ok upperTransfer := rfl
    obtain ⟨_, _, hkept, _, hempty⟩ := hcopy _ _ _ hdropped
    exact ⟨_, hdropped, hempty rfl, (hkept .value rfl).trans rfl⟩
  · obtain ⟨names, hnames, hperm, _⟩ := hunknown none [("value", .bool true), ("data", .none)]
      (List.cons_ne_nil _ _)
    exact ⟨names, hnames, hperm⟩

end Session

end PlainTx
