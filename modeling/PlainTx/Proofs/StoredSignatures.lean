/-
**The signatures that a session stores.**

A session stores signatures in its transactions and slots, in the signatures that builders are
given, and in plain values.  A step adds no signature to them but those that it makes itself, which
are minimal, and those that its operands mention.  So a signature that is not minimal has been given
as it is: it is stored as it was given.  Such a signature, and no other, is changed when the signed
form of its transaction is read back.

Main definitions:

* `PlainTx.Session.Only` — all signatures that a session stores are of one kind;
* `PlainTx.Operand.Mentions`, `PlainTx.Step.Gives` — a signature stands inside an operand, or inside
  one of a step.

Main results:

* `PlainTx.Session.only_resolve` — an operand stands for a value with stored or given signatures;
* `PlainTx.Session.only_perform`, `PlainTx.Session.only_step` — **a step stores what is minimal, or
  given**;
* `PlainTx.Session.only_after` — and so does every run;
* `PlainTx.Session.stored_minimal_or_given` — **the signatures that are stored**;
* `PlainTx.Session.stored_unstripped` — a signature that is stored as it was given.
-/

import PlainTx.Proofs.Provenance
import PlainTx.Proofs.RoundTrip
import PlainTx.Proofs.Sessions

set_option relaxedAutoImplicit false
set_option autoImplicit false

namespace PlainTx

variable {P : Signature → Prop}

/-! ### Signatures that a step is given -/

/-- The signature stands somewhere inside the operand, as it is. -/
inductive Operand.Mentions : Operand → Signature → Prop where
  | value {x : Value} {sig : Signature} (h : x.Mentions sig) : Mentions (.value x) sig
  | inList {items : List Operand} {x : Operand} {sig : Signature} (hx : x ∈ items)
      (h : x.Mentions sig) : Mentions (.list items) sig
  | inTuple {items : List Operand} {x : Operand} {sig : Signature} (hx : x ∈ items)
      (h : x.Mentions sig) : Mentions (.tuple items) sig
  | inKey {entries : List (Operand × Operand)} {key x : Operand} {sig : Signature}
      (hx : (key, x) ∈ entries) (h : key.Mentions sig) : Mentions (.dict entries) sig
  | inEntry {entries : List (Operand × Operand)} {key x : Operand} {sig : Signature}
      (hx : (key, x) ∈ entries) (h : x.Mentions sig) : Mentions (.dict entries) sig

/-- All signatures inside the operand are of one kind. -/
def Operand.Only (P : Signature → Prop) (o : Operand) : Prop := ∀ sig, o.Mentions sig → P sig

/-- The operands of a command on a transaction. -/
def TransactionCommand.operands : TransactionCommand → List Operand
  | .copy overrides => overrides.map Prod.snd
  | .append signatures => [signatures]
  | .sign key => [key]
  | .combine raws => [raws]
  | _ => []

/-- The operands of a command on a builder. -/
def BuilderCommand.operands : BuilderCommand → List Operand
  | .set _ x => [x]
  | _ => []

/-- The operands of a command on a slot. -/
def SlotCommand.operands : SlotCommand → List Operand
  | .fill signature => [signature]
  | _ => []

/-- The operands of a command. -/
def Command.operands : Command → List Operand
  | .create fields => fields.map Prod.snd
  | .template fields key => key :: fields.map Prod.snd
  | .decode raw policy => [raw, policy]
  | .tryDecode raw policy => [raw, policy]
  | .onTransaction command => command.operands
  | .onBuilder command => command.operands
  | .onSlot command => command.operands
  | .compare _ right _ => [right]
  | .claimEqual expected actual => [expected, actual]
  | .requireEqual left right _ _ => [left, right]
  | _ => []

/-- The step is given the signature as it is. -/
def Step.Gives (x : Step) (sig : Signature) : Prop := ∃ o ∈ x.command.operands, o.Mentions sig

/-! ### Signatures that a session stores -/

/-- The signature of the slot, if there is one, is of the given kind. -/
def Slot.Only (P : Signature → Prop) (slot : Slot) : Prop :=
  ∀ sig, slot.signature = some sig → P sig

theorem Slot.only_of_empty {slot : Slot} (h : slot.signature = none) : slot.Only P := by
  intro sig hsig
  cases h.symm.trans hsig

namespace Session

/-- All signatures inside a thing are of one kind. -/
def Thing.Only (P : Signature → Prop) : Thing → Prop
  | .transaction t => t.Only P
  | .builder b => b.signatures.Only P
  | .outcome _ => True
  | .slot place => place.Only P
  | .misfilled place x => place.Only P ∧ x.Only P
  | .value x => x.Only P

/-- All signatures that a session stores are of one kind. -/
def Only (P : Signature → Prop) (s : Session) : Prop := ∀ thing ∈ s.things, thing.Only P

variable {s : Session} {number : Nat}

theorem only_of_nothing (h : s.things = []) : s.Only P := by
  intro thing hthing
  rw [h] at hthing
  cases hthing

theorem only_add (thing : Thing) (hs : s.Only P) (h : thing.Only P) : (s.add thing).1.Only P := by
  intro other hother
  rcases List.mem_append.1 hother with hother | hother
  · exact hs other hother
  · rw [List.mem_singleton.1 hother]
    exact h

theorem only_replace (thing : Thing) (hs : s.Only P) (h : thing.Only P) :
    (s.replace number thing).Only P := by
  intro other hother
  rcases List.mem_or_eq_of_mem_set hother with hother | rfl
  · exact hs other hother
  · exact h

theorem only_of_things {thing : Thing} (hs : s.Only P) (h : s.things[number]? = some thing) :
    thing.Only P :=
  hs thing (List.mem_of_getElem? h)

/-! ### What operands stand for -/

/-- The value of a thing mentions no more than the thing. -/
theorem only_asValue (s : Session) (number : Nat) {thing : Thing} (h : thing.Only P) :
    (s.asValue number thing).Only P := by
  cases thing with
  | value x => exact h
  | outcome o =>
      cases o with
      | ok found =>
          rintro sig (_ | _ | _ | _ | _ | h | h)
          · rw [transactionValue] at h
            split at h <;> cases h
          · cases h
      | error fault =>
          rintro sig (_ | _ | _ | _ | _ | h | h)
          · cases h
          · rw [faultValue] at h
            split at h <;> cases h
  | _ => exact Value.only_of_plain rfl

theorem only_named {name : String} {x : Value} (hs : s.Only P) (h : s.named name = .ok x) :
    x.Only P := by
  obtain ⟨⟨number, thing⟩, hfind, h⟩ := Result.bind_eq_ok.1 h
  cases h
  exact only_asValue s number (only_of_things hs (things_of_find hfind))

theorem only_enter {key x : Value} {entries : List (Value × Value)}
    (hentries : ∀ entry ∈ entries, entry.1.Only P ∧ entry.2.Only P) (hkey : key.Only P)
    (hx : x.Only P) : ∀ entry ∈ Value.enter key x entries, entry.1.Only P ∧ entry.2.Only P := by
  induction entries with
  | nil =>
      intro entry hentry
      rw [List.mem_singleton.1 hentry]
      exact ⟨hkey, hx⟩
  | cons first rest ih =>
      obtain ⟨k, y⟩ := first
      obtain ⟨hfirst, hrest⟩ := List.forall_mem_cons.1 hentries
      rw [Value.enter]
      split
      · exact List.forall_mem_cons.2 ⟨⟨hfirst.1, hx⟩, hrest⟩
      · exact List.forall_mem_cons.2 ⟨hfirst, ih hrest⟩

theorem only_readAs {α : Type} {make : α → Value} {reading : Option α} {x : Value}
    (h : readAs make reading = .ok x) (hmake : ∀ a, (make a).Only P) : x.Only P := by
  cases reading with
  | none => cases h
  | some a =>
      cases h
      exact hmake a

mutual

/-- **The value of an operand** mentions what the operand mentions, what is stored, and what is made
of components. -/
theorem only_resolve [Stack] (hP : ∀ sig : Signature, sig.Minimal → P sig) (hs : s.Only P)
    (o : Operand) (ho : o.Only P) {x : Value} (h : s.resolve o = .ok x) : x.Only P := by
  match o with
  | .value y =>
      cases h
      exact fun sig hsig => ho sig (.value hsig)
  | .integer text => exact only_readAs h fun _ => Value.only_of_plain rfl
  | .real text => exact only_readAs h fun _ => Value.only_of_plain rfl
  | .policy name => exact only_readAs h fun _ => Value.only_of_plain rfl
  | .list items =>
      obtain ⟨xs, hxs, h⟩ := Result.bind_eq_ok.1 h
      cases h
      exact Value.only_list_iff.2
        (only_resolveAll hP hs items (fun y hy sig hsig => ho sig (.inList hy hsig)) hxs)
  | .tuple items =>
      obtain ⟨xs, hxs, h⟩ := Result.bind_eq_ok.1 h
      cases h
      exact Value.only_tuple_iff.2
        (only_resolveAll hP hs items (fun y hy sig hsig => ho sig (.inTuple hy hsig)) hxs)
  | .dict entries =>
      obtain ⟨xs, hxs, h⟩ := Result.bind_eq_ok.1 h
      cases h
      refine Value.only_dict_iff.2 (only_resolveEntries hP hs entries ?_ (by simp) hxs)
      intro entry hentry
      exact ⟨fun sig hsig => ho sig (.inKey hentry hsig),
        fun sig hsig => ho sig (.inEntry hentry hsig)⟩
  | .signature components =>
      -- whatever the components mention, what is made of them is minimal
      obtain ⟨xs, _, h⟩ := Result.bind_eq_ok.1 h
      split at h
      · obtain ⟨sig, hsig, h⟩ := Result.bind_eq_ok.1 h
        cases h
        exact Value.only_signature (hP sig (Signature.denotes_of_ofComponents hsig).1)
      · cases h
  | .register name => exact only_named hs h

theorem only_resolveAll [Stack] (hP : ∀ sig : Signature, sig.Minimal → P sig) (hs : s.Only P)
    (items : List Operand) (hitems : ∀ o ∈ items, o.Only P) {xs : List Value}
    (h : s.resolveAll items = .ok xs) : ∀ x ∈ xs, x.Only P := by
  match items with
  | [] =>
      cases h
      simp
  | o :: rest =>
      obtain ⟨ho, hrest⟩ := List.forall_mem_cons.1 hitems
      obtain ⟨x, hx, h⟩ := Result.bind_eq_ok.1 h
      obtain ⟨others, hothers, h⟩ := Result.bind_eq_ok.1 h
      cases h
      exact List.forall_mem_cons.2
        ⟨only_resolve hP hs o ho hx, only_resolveAll hP hs rest hrest hothers⟩

theorem only_resolveEntries [Stack] (hP : ∀ sig : Signature, sig.Minimal → P sig) (hs : s.Only P)
    (entries : List (Operand × Operand)) (hentries : ∀ e ∈ entries, e.1.Only P ∧ e.2.Only P)
    {entered xs : List (Value × Value)} (hentered : ∀ e ∈ entered, e.1.Only P ∧ e.2.Only P)
    (h : s.resolveEntries entered entries = .ok xs) : ∀ e ∈ xs, e.1.Only P ∧ e.2.Only P := by
  match entries with
  | [] =>
      cases h
      exact hentered
  | (k, o) :: rest =>
      obtain ⟨⟨hk, ho⟩, hrest⟩ := List.forall_mem_cons.1 hentries
      obtain ⟨key, hkey, h⟩ := Result.bind_eq_ok.1 h
      obtain ⟨x, hx, h⟩ := Result.bind_eq_ok.1 h
      simp only at h
      split at h
      · cases h
      · exact only_resolveEntries hP hs rest hrest
          (only_enter hentered (only_resolve hP hs k hk hkey) (only_resolve hP hs o ho hx)) h

end

/-! ### Effects of commands -/

theorem only_make (thing : Thing) (hs : s.Only P) (h : thing.Only P) (a : Answer)
    (journal : List Event) : (Effect.make s thing a journal).session.Only P :=
  only_add thing hs h

theorem only_andThen {α : Type} {result : Except Fault α} {next : α → Effect} (hs : s.Only P)
    (h : ∀ a, result = .ok a → (next a).session.Only P) :
    (Effect.andThen s result next).session.Only P := by
  cases result with
  | error fault => exact hs
  | ok a => exact h a rfl

theorem only_transaction (hs : s.Only P) (journal : Transaction → List Event)
    {result : Except Fault Transaction} (h : ∀ t, result = .ok t → t.Only P) :
    (Effect.transaction s journal result).session.Only P :=
  only_andThen hs fun t ht => only_make (.transaction t) hs (h t ht) _ _

theorem only_outcome (hs : s.Only P) (journal : Transaction → List Event)
    {result : Except Fault Transaction} (h : ∀ t, result = .ok t → t.Only P) :
    (Effect.outcome s journal result).session.Only P := by
  refine only_andThen hs fun o ho => ?_
  cases o with
  | error fault => exact only_make (.outcome (.error fault)) hs trivial _ _
  | ok t =>
      -- only a result that is no fault is recorded as a transaction
      have ht : result = .ok t := by
        cases result with
        | ok u =>
            cases ho
            rfl
        | error fault =>
            rw [capture] at ho
            split at ho <;> cases ho
      have hadd := only_add (.transaction t) hs (h t ht)
      exact only_make (.outcome (.ok s.things.length)) hadd trivial _ _

/-- **An operation on a transaction** stores the transaction it leaves behind, and its answer. -/
theorem only_ofAction {α : Type} {t : Transaction} {action : Action α} {answer : α → Value}
    (hs : s.Only P) (ht : (action t).transaction.Only P)
    (hanswer : ∀ a, (action t).result = .ok a → (answer a).Only P) :
    (Effect.ofAction s number t action answer).session.Only P := by
  have hreplace : (s.replace number (.transaction (action t).transaction)).Only P :=
    only_replace _ hs ht
  rw [Effect.ofAction]
  cases hresult : (action t).result with
  | error fault => exact hreplace
  | ok a => exact only_add (.value (answer a)) hreplace (hanswer a hresult)

/-- An operation that only looks stores nothing but its answer. -/
theorem only_ofAction_of_observes {α : Type} {t : Transaction} {action : Action α}
    {f : Transaction → Except Fault α} {answer : α → Value} (hs : s.Only P) (ht : t.Only P)
    (haction : action.Observes f) (hanswer : ∀ a, (answer a).Only P) :
    (Effect.ofAction s number t action answer).session.Only P :=
  only_ofAction hs ((haction.transaction t).symm ▸ ht) fun a _ => hanswer a

/-! ### Commands -/

/-- A slot that is filled holds what it is filled with, and answers what it held. -/
theorem only_fillSlot {slot : Slot} {x replaced : Value} {thing : Thing} (hslot : slot.Only P)
    (hx : x.Only P) (h : fillSlot slot x = .ok (thing, replaced)) :
    thing.Only P ∧ replaced.Only P := by
  have hreplaced : ((slot.signature.map Value.signature).getD .none).Only P := by
    cases hheld : slot.signature with
    | none => exact Value.only_of_plain rfl
    | some held => exact Value.only_signature (hslot held hheld)
  cases x with
  | signature sig =>
      obtain ⟨⟨filled, _⟩, hfill, h⟩ := Result.bind_eq_ok.1 h
      obtain ⟨_, rfl, _⟩ := Slot.fill_eq_ok_iff.1 hfill
      cases h
      refine ⟨?_, hreplaced⟩
      intro stored hstored
      cases hstored
      exact hx sig (.self sig)
  | none =>
      obtain ⟨_, _, h⟩ := Result.bind_eq_ok.1 h
      cases h
      exact ⟨Slot.only_of_empty rfl, hreplaced⟩
  | _ =>
      -- the slot is kept beside what it was wrongly filled with
      obtain ⟨_, _, h⟩ := Result.bind_eq_ok.1 h
      cases h
      exact ⟨⟨hslot, hx⟩, hreplaced⟩

section Commands

variable [Stack] (hP : ∀ sig : Signature, sig.Minimal → P sig)

include hP

theorem only_resolveFields (hs : s.Only P) {fields : List (String × Operand)}
    (hfields : ∀ o ∈ fields.map Prod.snd, o.Only P) {xs : List (String × Value)}
    (h : s.resolveFields fields = .ok xs) : ∀ field ∈ xs, field.2.Only P := by
  intro field hfield
  obtain ⟨⟨name, o⟩, ho, hresolve⟩ := (Result.mem_of_mapM h field).1 hfield
  obtain ⟨x, hx, hresolve⟩ := Result.bind_eq_ok.1 hresolve
  cases hresolve
  exact only_resolve hP hs o (hfields o (List.mem_map_of_mem ho)) hx

theorem only_performTransaction (scheme : Scheme PrivateKey) (hs : s.Only P) {t : Transaction}
    (ht : s.things[number]? = some (.transaction t)) (command : TransactionCommand)
    (hcommand : ∀ o ∈ command.operands, o.Only P) :
    (performTransaction scheme s number t command).session.Only P := by
  have ht : t.Only P := only_of_things hs ht
  cases command with
  | copy overrides =>
      exact only_andThen hs fun fields hfields => only_andThen hs fun _ _ =>
        only_transaction hs _ fun u hu =>
          Transaction.only_of_copy hP ht (only_resolveFields hP hs hcommand hfields) hu
  | append signatures =>
      refine only_andThen hs fun x hx => only_ofAction hs ?_ fun _ _ => Value.only_of_plain rfl
      exact Transaction.only_append hP (only_resolve hP hs _ (hcommand _ List.mem_cons_self) hx) ht
  | sign key =>
      exact only_andThen hs fun key _ => only_ofAction hs (Transaction.only_sign hP scheme key ht)
        fun sig hsig => Value.only_signature (Transaction.of_sign hP hsig)
  | combine raws =>
      exact only_andThen hs fun raws _ => only_ofAction hs
        (Transaction.only_combine hP s.detailed raws ht) fun _ _ => Value.only_of_plain rfl
  | get name =>
      rw [performTransaction]
      cases Transaction.Property.ofName? name with
      | none => exact hs
      | some property =>
          have hget : (Transaction.get property t).transaction.Only P := by
            rw [Transaction.get_transaction]
            exact ht
          exact only_ofAction hs hget fun x hx => Transaction.only_get ht hx
  | encode =>
      exact only_ofAction_of_observes hs ht Transaction.encode_observes
        fun _ => Value.only_of_plain rfl
  | encodeForSigning =>
      exact only_ofAction_of_observes hs ht Transaction.encodeForSigning_observes
        fun _ => Value.only_of_plain rfl
  | message =>
      exact only_ofAction_of_observes hs ht Transaction.messageForSigning_observes
        fun _ => Value.only_of_plain rfl
  | sender =>
      exact only_ofAction_of_observes hs ht (Transaction.recoverSender_observes scheme)
        fun _ => Value.only_of_plain rfl
  | captureSender => exact only_andThen hs fun o _ => hs
  | validate forSigning => exact only_andThen hs fun u _ => hs

theorem only_performBuilder (hs : s.Only P) {b : Builder}
    (hb : s.things[number]? = some (.builder b)) (command : BuilderCommand)
    (hcommand : ∀ o ∈ command.operands, o.Only P) :
    (performBuilder s number b command).session.Only P := by
  have hb : b.signatures.Only P := only_of_things hs hb
  cases command with
  | set name x =>
      refine only_andThen hs fun x hx => ?_
      cases Builder.Field.ofName? name with
      | none => exact hs
      | some field =>
          have hx := only_resolve hP hs _ (hcommand _ List.mem_cons_self) hx
          exact only_andThen hs fun c hc =>
            only_replace (.builder c) hs (Builder.only_of_set hb hx hc)
  | build => exact only_transaction hs _ fun t ht => Builder.only_of_build hP hb ht
  | finalize => exact only_outcome hs _ fun t ht => Builder.only_of_build hP hb ht

theorem only_performSlot (hs : s.Only P) {slot : Slot}
    (hslot : s.things[number]? = some (.slot slot)) (command : SlotCommand)
    (hcommand : ∀ o ∈ command.operands, o.Only P) :
    (performSlot s number slot command).session.Only P := by
  have hslot : slot.Only P := only_of_things hs hslot
  cases command with
  | fill signature =>
      refine only_andThen hs fun x hx => only_andThen hs fun (thing, replaced) hfill => ?_
      have hx := only_resolve hP hs _ (hcommand _ List.mem_cons_self) hx
      obtain ⟨hthing, hreplaced⟩ := only_fillSlot hslot hx hfill
      exact only_make (.value replaced) (only_replace thing hs hthing) hreplaced _ _
  | check => exact only_andThen hs fun u _ => hs
  | get => exact hs

theorem only_signedTemplate (scheme : Scheme PrivateKey) (hs : s.Only P)
    {fields : List (String × Value)} (hfields : ∀ field ∈ fields, field.2.Only P)
    (key : Option PrivateKey) : (signedTemplate scheme s fields key).session.Only P := by
  refine only_andThen hs fun t ht => ?_
  have ht : t.Only P := Transaction.only_of_template hP hfields ht
  cases key with
  | none => exact only_make (.transaction t) hs ht _ _
  | some key =>
      simp only
      cases (Transaction.sign scheme key t).result with
      | error fault => exact hs
      | ok sig =>
          exact only_make (.transaction (Transaction.sign scheme key t).transaction) hs
            (Transaction.only_sign hP scheme key ht) _ _

theorem only_of_decodeWith {setting : Option String} {policy : Option Policy} {x : Value}
    {t : Transaction} (h : Transaction.decodeWith setting policy x = .ok t) : t.Only P := by
  obtain ⟨p, _, hp⟩ := Result.bind_eq_ok.1 h
  exact fun sig hsig => hP sig (Transaction.minimal_of_decode hp hsig)

/-- **A command stores** what is minimal, and what its operands mention. -/
theorem only_perform (scheme : Scheme PrivateKey) (hs : s.Only P) (target : String)
    (command : Command) (hcommand : ∀ o ∈ command.operands, o.Only P) :
    (perform scheme s target command).session.Only P := by
  cases command with
  | changeSetting text => exact only_andThen hs fun setting _ => hs
  | defaultPolicy =>
      exact only_andThen hs fun p _ =>
        only_make (.value (.policy p)) hs (Value.only_of_plain rfl) _ _
  | newBuilder =>
      exact only_make (.builder {}) hs (Value.only_tuple_iff.2 (by simp)) _ _
  | newSlot policy owner =>
      rw [perform]
      cases Policy.ofText? policy with
      | none => exact hs
      | some p => exact only_make (.slot { policy := p, owner }) hs (Slot.only_of_empty rfl) _ _
  | create fields =>
      refine only_andThen hs fun fields hfields => only_transaction hs _ fun t ht => ?_
      obtain ⟨a, ha, ht⟩ := Result.bind_eq_ok.1 ht
      exact Transaction.only_of_create hP
        (Arguments.only_of_ofFields ha (only_resolveFields hP hs hcommand hfields)) ht
  | template fields key =>
      refine only_andThen hs fun fields hfields => only_andThen hs fun key _ => ?_
      exact only_signedTemplate hP scheme hs (only_resolveFields hP hs
        (fun o ho => hcommand o (List.mem_cons_of_mem _ ho)) hfields) key
  | decode raw policy =>
      exact only_andThen hs fun reading _ => only_transaction hs _ fun t ht =>
        only_of_decodeWith hP ht
  | tryDecode raw policy =>
      exact only_andThen hs fun reading _ => only_outcome hs _ fun t ht =>
        only_of_decodeWith hP ht
  | unwrap =>
      refine only_andThen hs fun found _ => ?_
      obtain ⟨number, thing⟩ := found
      cases thing with
      | outcome o =>
          cases o with
          | error fault => exact hs
          | ok number =>
              simp only [unwrap]
              split
              · exact hs
              · exact hs
      | _ => exact hs
  | onTransaction command =>
      exact only_andThen hs fun found h =>
        only_performTransaction hP scheme hs (things_of_transaction h) command hcommand
  | onBuilder command =>
      exact only_andThen hs fun found h =>
        only_performBuilder hP hs (things_of_builder h) command hcommand
  | onSlot command =>
      refine only_andThen hs fun found h => ?_
      obtain ⟨number, thing⟩ := found
      cases thing with
      | slot slot => exact only_performSlot hP hs (things_of_find h) command hcommand
      | misfilled slot x =>
          cases command with
          | get => exact hs
          | _ => exact hs
      | _ => exact hs
  | compare left right checkSignature =>
      refine only_andThen hs fun found h => only_andThen hs fun right _ => ?_
      cases right with
      | transaction u =>
          exact only_ofAction_of_observes hs (only_of_things hs (things_of_transaction h))
            (Transaction.compare_observes s.detailed u checkSignature)
            fun _ => Value.only_of_plain rfl
      | other x => exact hs
  | difference left right checkSignature =>
      exact only_andThen hs fun t _ => only_andThen hs fun u _ => hs
  | claimEqual expected actual =>
      exact only_andThen hs fun x _ => only_andThen hs fun y _ => only_andThen hs fun u _ => hs
  | requireEqual left right leftName rightName =>
      exact only_andThen hs fun x _ => only_andThen hs fun y _ => only_andThen hs fun u _ => hs

/-- **A step stores what is minimal, or given.** -/
theorem only_step (scheme : Scheme PrivateKey) (hs : s.Only P) (x : Step)
    (hx : ∀ sig, x.Gives sig → P sig) : (s.step scheme x).2.Only P := by
  have hperform := only_perform hP scheme hs (x.target.getD "") x.command
    fun o ho sig hsig => hx sig ⟨o, ho, hsig⟩
  rw [step]
  simp only
  -- giving a name to a thing changes no thing
  split
  · exact hperform
  · exact hperform

/-- **A run stores what is minimal, or given.** -/
theorem only_after (scheme : Scheme PrivateKey) (hs : s.Only P) (steps : List Step)
    (hsteps : ∀ x ∈ steps, ∀ sig, x.Gives sig → P sig) : (s.after scheme steps).Only P := by
  induction steps generalizing s with
  | nil => exact hs
  | cons x rest ih =>
      obtain ⟨hx, hrest⟩ := List.forall_mem_cons.1 hsteps
      exact ih (only_step hP scheme hs x hx) hrest

end Commands

/-! ### Runs that start with nothing -/

/-- **The signatures that are stored** in a run that starts with nothing: each is minimal, or was
given as it is.  If its transaction can be written, the transaction that is read back compares equal
exactly if the signature is minimal. -/
theorem stored_minimal_or_given [Stack] (scheme : Scheme PrivateKey) (setting : Option String)
    (detailed : Bool) (steps : List Step) {number : Nat} {t : Transaction} {sig : Signature}
    (ht : (({ setting, detailed } : Session).after scheme steps).things[number]? =
      some (.transaction t)) (hsig : t.signature? = some sig) :
    (sig.Minimal ∨ ∃ x ∈ steps, x.Gives sig) ∧
    (t.common.Complete → t.SignedFits → ∀ (setting' : Option String) (p : Policy),
      ∃ form d, (Transaction.encode t).result = .ok form ∧
        Transaction.decodeWith setting' (some p) (.bytes form) = .ok d ∧
        ((Transaction.compare detailed t true d).result = .ok true ↔ sig.Minimal)) := by
  constructor
  · have hnothing : ({ setting, detailed } : Session).Only
        fun sig => sig.Minimal ∨ ∃ x ∈ steps, x.Gives sig := only_of_nothing rfl
    have hrun := only_after (fun _ hminimal => .inl hminimal) scheme hnothing steps
      fun x hx _ hgives => .inr ⟨x, hx, hgives⟩
    exact only_of_things hrun ht sig hsig
  · intro hcomplete hfits setting' p
    exact Transaction.compare_decoded_iff hcomplete hsig hfits setting' p detailed

/-- The step that makes a transaction with a signature. -/
def creating (signature : Operand) : Step :=
  { command := .create
      [("to", .value (.text "0xffffffffffffffffffffffffffffffffffffffff")),
        ("value", .value (.text "0x3")), ("nonce", .value (.text "0x0")),
        ("gas_price", .value (.text "0x1")), ("gas", .value (.text "0x2")),
        ("chain_id", .value (.text "0x1")), ("signatures", signature),
        ("signature_policy", .value (.policy .replaceEmpty))] }

/-- The transaction that is made. -/
def created (sig : Signature) : Transaction where
  recipient := ⟨.lower, List.replicate 40 (Hex.lastDigit 15), rfl⟩
  value := ⟨.lower, [Hex.lastDigit 3]⟩
  input := []
  common :=
    { nonce := some ⟨.lower, [Hex.lastDigit 0]⟩
      gasPrice := some ⟨.lower, [Hex.lastDigit 1]⟩
      gas := some ⟨.lower, [Hex.lastDigit 2]⟩
      chainId := some ⟨.lower, [Hex.lastDigit 1]⟩ }
  slot := { Slot.forTransaction .replaceEmpty with signature := some sig }

theorem signedFits_created {sig : Signature} (hv : sig.v.toNat < 256 ^ 32)
    (hr : sig.r.toNat < 256 ^ 32) (hs : sig.s.toNat < 256 ^ 32) : (created sig).SignedFits := by
  have hbody : (created sig).body = .ok ⟨0, 1, 2, List.replicate 20 0xFF, 3, []⟩ := rfl
  refine Transaction.signedFits_of_ordinary hbody ?_ rfl hv hr hs
  exact ⟨by decide, by decide, by decide, rfl, by decide, by decide⟩

/-- Only the operand for the signature may mention one. -/
theorem gives_creating_iff {signature : Operand} {sig : Signature} :
    (creating signature).Gives sig ↔ signature.Mentions sig := by
  constructor
  · rintro ⟨o, ho, hmentions⟩
    simp only [creating, Command.operands, List.map_cons, List.map_nil, List.mem_cons,
      List.not_mem_nil, or_false] at ho
    rcases ho with rfl | rfl | rfl | rfl | rfl | rfl | rfl | rfl
    case inr.inr.inr.inr.inr.inr.inl => exact hmentions
    all_goals rcases hmentions with ⟨⟨⟩⟩
  · intro h
    exact ⟨signature, by simp [creating, Command.operands], h⟩

/-- Three components with zeros in front. -/
def paddedComponents : Operand :=
  .signature [.value (.bytes [0x00, 0x25]), .value (.bytes [0x00, 0x05]), .value (.text "0x0006")]

/-- The signature of the components. -/
def stripped : Signature := ⟨[0x25], [0x05], [0x06]⟩

open scoped Stack.Usual

/-- A signature that is made of components is stored without the zeros in front, and nothing is lost
when its transaction is read back. -/
theorem stored_minimal_or_given_components :
    (({} : Session).after .secp256k1 [creating paddedComponents]).things[0]? =
      some (.transaction (created stripped)) ∧
    (created stripped).signature? = some stripped ∧ stripped.Minimal ∧
    (created stripped).common.Complete ∧ (created stripped).SignedFits ∧
    ∃ form d, (Transaction.encode (created stripped)).result = .ok form ∧
      Transaction.decodeWith none (some .reject) (.bytes form) = .ok d ∧
      (Transaction.compare false (created stripped) true d).result = .ok true := by
  have hcreated : (({} : Session).after .secp256k1 [creating paddedComponents]).things[0]? =
      some (.transaction (created stripped)) := rfl
  have hcomplete : (created stripped).common.Complete := by decide
  have hfits : (created stripped).SignedFits :=
    signedFits_created (by decide) (by decide) (by decide)
  obtain ⟨hstored, hread⟩ := stored_minimal_or_given .secp256k1 none false _ hcreated rfl
  -- no step mentions a signature, so this one has been made
  have hminimal : stripped.Minimal := by
    rcases hstored with hminimal | ⟨x, hx, hgives⟩
    · exact hminimal
    · rw [List.mem_singleton.1 hx, gives_creating_iff] at hgives
      cases hgives
  obtain ⟨form, d, hform, hd, hsame⟩ := hread hcomplete hfits none .reject
  exact ⟨hcreated, rfl, hminimal, hcomplete, hfits, form, d, hform, hd, hsame.2 hminimal⟩

/-! ### A signature with a zero in front -/

/-- A signature with a zero in front. -/
def unstripped : Signature := ⟨[0x00, 0x25], [0x05], [0x06]⟩

/-- **A signature is stored as it was given**, and what is read back compares unequal. -/
theorem stored_unstripped :
    (({} : Session).after .secp256k1 [creating (.value (.signature unstripped))]).things[0]? =
      some (.transaction (created unstripped)) ∧
    (created unstripped).signature? = some unstripped ∧ ¬ unstripped.Minimal ∧
    (created unstripped).common.Complete ∧ (created unstripped).SignedFits ∧
    ∃ form d, (Transaction.encode (created unstripped)).result = .ok form ∧
      Transaction.decodeWith none (some .replaceEmpty) (.bytes form) = .ok d ∧
      (Transaction.compare true (created unstripped) true d).result ≠ .ok true := by
  have hcomplete : (created unstripped).common.Complete := by decide
  have hfits : (created unstripped).SignedFits :=
    signedFits_created (by decide) (by decide) (by decide)
  have hunstripped : ¬ unstripped.Minimal := by decide
  have hsig : (created unstripped).signature? = some unstripped := rfl
  obtain ⟨form, d, hform, hd, hsame⟩ :=
    Transaction.compare_decoded_iff hcomplete hsig hfits none .replaceEmpty true
  exact ⟨rfl, hsig, hunstripped, hcomplete, hfits, form, d, hform, hd, mt hsame.1 hunstripped⟩

end Session

end PlainTx
