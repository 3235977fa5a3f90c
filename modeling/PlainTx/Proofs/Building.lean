/-
**Building is creating.**

A builder reads each field when its setter is called, and a setter that fails leaves the builder as
it was.  So a builder holds, for every field, what the last value that its setter took is read as,
and what it builds is what is created from these values at once: the same transaction, or the same
fault.  It makes no difference that the fields are read twice on the way, because the text of what
was read is read as the same thing again.

Main definitions:

* `PlainTx.Builder.Field.name`, `PlainTx.Builder.named` — the names of the fields, and the values
  that are given for them under these names;
* `PlainTx.Builder.Collected` — a builder holds what the given values are read as.

Main results:

* `PlainTx.Arguments.ofFields_named` — the arguments of some values for the fields;
* `PlainTx.Builder.collected_set` — **what a setter that succeeds leaves behind**;
* `PlainTx.Builder.build_of_collected` — **building is creating**;
* `PlainTx.Builder.build_eq_create` — and so is creating from the texts of the fields.
-/

import PlainTx.Builder
import PlainTx.Proofs.Layout

set_option relaxedAutoImplicit false
set_option autoImplicit false

namespace PlainTx

/-! ### Texts that are read again -/

theorem Quantity.read_value [Stack] (title : String) (q : Quantity) :
    read title q.value = .ok q := by
  simp only [value, read, ofText?_text]

theorem Quantity.readOptional_optionalValue [Stack] (title : String) (q : Option Quantity) :
    readOptional title (optionalValue q) = .ok q := by
  cases q with
  | none => rfl
  | some q =>
      have hread : readOptional title q.value = (read title q.value).map some := rfl
      rw [optionalValue, hread, read_value]
      rfl

/-- What is read as a quantity is read as one that is set. -/
theorem Quantity.readOptional_of_read [Stack] {title : String} {x : Value} {q : Quantity}
    (h : read title x = .ok q) : readOptional title x = .ok (some q) := by
  cases x with
  | none => cases h
  | _ => exact congrArg (Except.map some) h

theorem CommonFields.read_values [Stack] (c : CommonFields) : read c.values = .ok c :=
  have hread := Quantity.readOptional_optionalValue
  read_eq_ok_iff.2 ⟨hread _ _, hread _ _, hread _ _, hread _ _⟩

theorem Address.read_optionalText [Stack] (title : String) (a : Option Address) :
    read title (.text (optionalText a)) = .ok a := by
  cases a with
  | none => rfl
  | some a => simp only [optionalText, read, if_neg a.text_ne_emptyAddress, ofText?_text]

theorem CallData.scan_text (data : Bytes) :
    Hex.scan (text data).toList = some (some .lower, Hex.ofBytes data) := by
  rw [toList_text]
  exact Hex.scan_eq_some_iff.2 ⟨List.cons_ne_nil _ _, rfl⟩

theorem CallData.read_text [Stack] (title : String) (data : Bytes) :
    read title (.text (text data)) = .ok data := by
  have heven : ¬ (Hex.ofBytes data).length % 2 = 1 := by
    rw [Hex.length_ofBytes]
    omega
  simp only [read, scan_text, if_neg heven, Hex.toBytes_ofBytes]

/-! ### Values for the fields -/

namespace Builder

/-- The name under which a field is given. -/
def Field.name : Field → String
  | .recipient => "to"
  | .value => "value"
  | .input => "input"
  | .nonce => "nonce"
  | .gas => "gas"
  | .gasPrice => "gas_price"
  | .chainId => "chain_id"
  | .signatures => "signatures"
  | .policy => "signature_policy"

theorem Field.ofName?_name (field : Field) : ofName? field.name = some field := by
  cases field <;> rfl

theorem Field.name_injective {field other : Field} (h : field.name = other.name) :
    field = other := by
  have hname := congrArg ofName? h
  rwa [ofName?_name, ofName?_name, Option.some_inj] at hname

theorem Field.contains_name (field : Field) : Arguments.names.contains field.name = true := by
  cases field <;> decide

/-- All fields. -/
def Field.all : List Field :=
  [.recipient, .value, .input, .nonce, .gas, .gasPrice, .chainId, .signatures, .policy]

theorem Field.mem_all (field : Field) : field ∈ all := by
  cases field <;> decide

/-- The values that are given for some fields, with the names of the fields. -/
def namedIn (given : Field → Option Value) (fields : List Field) : List (String × Value) :=
  fields.filterMap fun field => (given field).map (field.name, ·)

/-- The values that are given, with the names of their fields. -/
def named (given : Field → Option Value) : List (String × Value) := namedIn given Field.all

theorem lookup_namedIn (given : Field → Option Value) (fields : List Field) (field : Field) :
    (namedIn given fields).lookup field.name = if field ∈ fields then given field else none := by
  induction fields with
  | nil => rfl
  | cons other rest ih =>
      by_cases hsame : field = other
      · subst hsame
        rw [if_pos List.mem_cons_self, namedIn, List.filterMap_cons]
        cases hgiven : given field with
        | none =>
            -- the field is passed over, and no later one of this name is given either
            refine ih.trans ?_
            split
            · exact hgiven
            · rfl
        | some x => exact List.lookup_cons_self
      · have hname : field.name ≠ other.name := fun h => hsame (Field.name_injective h)
        simp only [List.mem_cons, hsame, false_or]
        rw [← ih, namedIn, List.filterMap_cons]
        cases given other with
        | none => rfl
        | some x =>
            simp only [Option.map_some, List.lookup_cons, beq_false_of_ne hname]
            rfl

/-- The value that is given for a field is found under its name. -/
theorem lookup_named (given : Field → Option Value) (field : Field) :
    (named given).lookup field.name = given field := by
  rw [named, lookup_namedIn, if_pos field.mem_all]

end Builder

/-- **The arguments of some values for the fields.** -/
theorem Arguments.ofFields_named {given : Builder.Field → Option Value} {recipient value : Value}
    {policy : Option Policy} (hrecipient : given .recipient = some recipient)
    (hvalue : given .value = some value)
    (hpolicy : Policy.ofValue ((given .policy).getD .none) = .ok policy) :
    ofFields (Builder.named given) = .ok {
      recipient, value
      input := (given .input).getD (.text Format.emptyInput)
      common := ⟨(given .nonce).getD .none, (given .gasPrice).getD .none,
        (given .gas).getD .none, (given .chainId).getD .none⟩
      signatures := (given .signatures).getD (.tuple [])
      policy } := by
  have hknown : (Builder.named given).all (fun field => names.contains field.1) = true := by
    refine List.all_eq_true.2 fun field hfield => ?_
    obtain ⟨other, _, hother⟩ := List.mem_filterMap.1 hfield
    obtain ⟨x, _, rfl⟩ := Option.map_eq_some_iff.1 hother
    exact other.contains_name
  have hlookup := Builder.lookup_named given
  have hto : (Builder.named given).lookup "to" = some recipient :=
    (hlookup .recipient).trans hrecipient
  have hamount : (Builder.named given).lookup "value" = some value :=
    (hlookup .value).trans hvalue
  have hinput : (Builder.named given).lookup "input" = given .input := hlookup .input
  have hnonce : (Builder.named given).lookup "nonce" = given .nonce := hlookup .nonce
  have hgasPrice : (Builder.named given).lookup "gas_price" = given .gasPrice := hlookup .gasPrice
  have hgas : (Builder.named given).lookup "gas" = given .gas := hlookup .gas
  have hchainId : (Builder.named given).lookup "chain_id" = given .chainId := hlookup .chainId
  have hsignatures : (Builder.named given).lookup "signatures" = given .signatures :=
    hlookup .signatures
  have hchosen : (Builder.named given).lookup "signature_policy" = given .policy := hlookup .policy
  simp only [ofFields, hknown, if_true, hto, hamount, hinput, hnonce, hgasPrice, hgas, hchainId,
    hsignatures, hchosen, hpolicy]
  rfl

/-! ### What a builder holds -/

namespace Builder

variable [Stack] {given : Field → Option Value} {b c : Builder}

/-- The values that are given, with one more. -/
def give (given : Field → Option Value) (field : Field) (x : Value) : Field → Option Value :=
  fun other => if other = field then some x else given other

/-- A builder holds what the given values are read as, and the defaults of the other fields. -/
structure Collected (given : Field → Option Value) (b : Builder) : Prop where
  recipient : (given .recipient).mapM (Address.read "to") = .ok b.recipient
  value : (given .value).mapM (Quantity.read "value") = .ok b.value
  input : CallData.read "input" ((given .input).getD (.text Format.emptyInput)) = .ok b.input
  nonce : Quantity.readOptional "nonce" ((given .nonce).getD .none) = .ok b.common.nonce
  gasPrice :
    Quantity.readOptional "gas_price" ((given .gasPrice).getD .none) = .ok b.common.gasPrice
  gas : Quantity.readOptional "gas" ((given .gas).getD .none) = .ok b.common.gas
  chainId : Quantity.readOptional "chain_id" ((given .chainId).getD .none) = .ok b.common.chainId
  signatures : b.signatures = (given .signatures).getD (.tuple [])
  policy : Policy.ofValue ((given .policy).getD .none) = .ok b.policy

/-- A new builder holds nothing but defaults. -/
theorem collected_new : Collected (fun _ => none) {} :=
  ⟨rfl, rfl, rfl, rfl, rfl, rfl, rfl, rfl, rfl⟩

/-- **A setter that succeeds** reads its value, and leaves all other fields as they were. -/
theorem collected_set (h : Collected given b) {field : Field} {x : Value}
    (hset : b.set field x = .ok c) : Collected (give given field x) c := by
  cases field with
  | recipient =>
      obtain ⟨a, ha, hset⟩ := Result.bind_eq_ok.1 hset
      cases hset
      have hread : (some x).mapM (Address.read "to") = .ok (some a) := by
        rw [Option.mapM_some, ha]
        rfl
      exact { h with recipient := hread }
  | value =>
      obtain ⟨q, hq, hset⟩ := Result.bind_eq_ok.1 hset
      cases hset
      have hread : (some x).mapM (Quantity.read "value") = .ok (some q) := by
        rw [Option.mapM_some, hq]
        rfl
      exact { h with value := hread }
  | input =>
      obtain ⟨data, hdata, hset⟩ := Result.bind_eq_ok.1 hset
      cases hset
      exact { h with input := hdata }
  | nonce =>
      obtain ⟨q, hq, hset⟩ := Result.bind_eq_ok.1 hset
      cases hset
      exact { h with nonce := Quantity.readOptional_of_read hq }
  | gas =>
      obtain ⟨q, hq, hset⟩ := Result.bind_eq_ok.1 hset
      cases hset
      exact { h with gas := Quantity.readOptional_of_read hq }
  | gasPrice =>
      obtain ⟨q, hq, hset⟩ := Result.bind_eq_ok.1 hset
      cases hset
      exact { h with gasPrice := Quantity.readOptional_of_read hq }
  | chainId =>
      obtain ⟨q, hq, hset⟩ := Result.bind_eq_ok.1 hset
      cases hset
      exact { h with chainId := Quantity.readOptional_of_read hq }
  | signatures =>
      cases hset
      exact { h with signatures := rfl }
  | policy =>
      obtain ⟨p, hp, hset⟩ := Result.bind_eq_ok.1 hset
      cases hset
      exact { h with policy := hp }

/-! ### Building -/

/-- The transaction that is created from the given values, where the recipient and the value have to
be there. -/
def createGiven (setting : Option String) (given : Field → Option Value) :
    Except Fault Transaction :=
  match given .recipient, given .value with
  | none, _ => .error (.missing "to")
  | some _, none => .error (.missing "value")
  | some _, some _ => do Transaction.create setting (← Arguments.ofFields (named given))

/-- **Building is creating**: a builder builds what is created from the values that it collected. -/
theorem build_of_collected (h : Collected given b) (setting : Option String) :
    b.build setting = createGiven setting given := by
  have hrecipient := h.recipient
  have hvalue := h.value
  rw [createGiven, build]
  cases hto : given .recipient with
  | none =>
      rw [hto] at hrecipient
      rw [← Except.ok.inj hrecipient]
  | some recipient =>
      rw [hto] at hrecipient
      obtain ⟨a, ha, hheld⟩ := Result.map_eq_ok.1 hrecipient
      rw [← hheld]
      cases hamount : given .value with
      | none =>
          rw [hamount] at hvalue
          rw [← Except.ok.inj hvalue]
      | some value =>
          rw [hamount] at hvalue
          obtain ⟨q, hq, hheld'⟩ := Result.map_eq_ok.1 hvalue
          have hcommon : CommonFields.read ⟨(given .nonce).getD .none,
              (given .gasPrice).getD .none, (given .gas).getD .none,
              (given .chainId).getD .none⟩ = .ok b.common :=
            CommonFields.read_eq_ok_iff.2 ⟨h.nonce, h.gasPrice, h.gas, h.chainId⟩
          rw [← hheld', Arguments.ofFields_named hto hamount h.policy, h.signatures]
          simp only [Transaction.create, ha, hq, h.input, hcommon, Result.ok_bind]
          cases a with
          | none => rfl
          | some recipient => rfl

/-- The arguments that a builder passes on: the texts of what it holds. -/
def arguments (b : Builder) (recipient : Option Address) (value : Quantity) : Arguments where
  recipient := .text (Address.optionalText recipient)
  value := value.value
  input := .text (CallData.text b.input)
  common := b.common.values
  signatures := b.signatures
  policy := b.policy

/-- **Reading the texts of the fields again** makes no difference. -/
theorem build_eq_create {recipient : Option Address} {value : Quantity}
    (hrecipient : b.recipient = some recipient) (hvalue : b.value = some value)
    (setting : Option String) :
    b.build setting = Transaction.create setting (b.arguments recipient value) := by
  simp only [build, hrecipient, hvalue, Transaction.create, arguments,
    Address.read_optionalText, Quantity.read_value, CallData.read_text, CommonFields.read_values,
    Result.ok_bind]
  cases recipient with
  | none => rfl
  | some recipient => rfl

end Builder

end PlainTx
