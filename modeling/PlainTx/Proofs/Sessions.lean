/-
**Transactions through a session.**

A session runs any commands on any of its things, and goes on after a fault.  What a command can
leave behind is said once for all commands: the session as it was, more things in it, another thing
in the place of one that is no transaction, or a transaction after an operation on it.  Whatever a
command does, then, the transactions that are there stay where they are, and each of them becomes at
most what a transaction can become; so what no change affects holds from any point of a session to
any later one.  And a command that fails changes nothing, because no operation does.

Main definitions:

* `PlainTx.Session.Keeps` — every transaction of a session is still there, as what it can become;
* `PlainTx.Session.Leaves` — what a command can leave behind;
* `PlainTx.Session.after` — the session after some steps.

Main results:

* `PlainTx.Session.leaves_perform` — **what any command leaves behind**;
* `PlainTx.Session.keeps_step`, `PlainTx.Session.keeps_after` — **a step keeps every transaction**,
  and so does every run;
* `PlainTx.Session.session_of_step_error` — **a step that fails changes nothing**;
* `PlainTx.Session.signature_lifecycle` — **what holds between two points of a run**;
* `PlainTx.Session.unchanged_of_error` — **combining and signing change nothing if they fail**.
-/

import PlainTx.Proofs.Atomicity
import PlainTx.Session.Run

set_option relaxedAutoImplicit false
set_option autoImplicit false

namespace PlainTx.Session

open PlainTx.Action (Advances)

variable {s : Session} {number : Nat}

/-! ### Things that stay -/

/-- Every transaction of a session is still there, as what it can become. -/
def Keeps (s s' : Session) : Prop :=
  ∀ (number : Nat) (t : Transaction), s.things[number]? = some (.transaction t) →
    ∃ u, s'.things[number]? = some (.transaction u) ∧ t.Reaches u

theorem Keeps.refl (s : Session) : s.Keeps s := fun _ t h => ⟨t, h, .refl t⟩

theorem Keeps.trans {s s' s'' : Session} (h : s.Keeps s') (h' : s'.Keeps s'') : s.Keeps s'' := by
  intro number t ht
  obtain ⟨u, hu, htu⟩ := h number t ht
  obtain ⟨w, hw, huw⟩ := h' number u hu
  exact ⟨w, hw, htu.trans huw⟩

theorem things_of_find {name : String} {thing : Thing} (h : s.find name = .ok (number, thing)) :
    s.things[number]? = some thing := by
  unfold find at h
  split at h
  · cases h
  · split at h
    · cases h
    · next hthing =>
        cases h
        exact hthing

theorem things_of_transaction {name : String} {t : Transaction}
    (h : s.transaction name = .ok (number, t)) :
    s.things[number]? = some (.transaction t) := by
  obtain ⟨⟨found, thing⟩, hfind, h⟩ := Result.bind_eq_ok.1 h
  cases thing with
  | transaction u =>
      cases h
      exact things_of_find hfind
  | _ => cases h

theorem things_of_builder {name : String} {b : Builder} (h : s.builder name = .ok (number, b)) :
    s.things[number]? = some (.builder b) := by
  obtain ⟨⟨found, thing⟩, hfind, h⟩ := Result.bind_eq_ok.1 h
  cases thing with
  | builder c =>
      cases h
      exact things_of_find hfind
  | _ => cases h

/-! ### What commands leave behind -/

/-- **What a command leaves behind**: the session as it was, or more things in it, or another thing
in the place of one that is no transaction, or a transaction after an operation on it.  Only the
first and the last may have failed. -/
inductive Leaves (s : Session) : Effect → Prop where
  | unchanged {effect : Effect} (hsession : effect.session = s) : Leaves s effect
  | extended {effect : Effect} {more : List Thing} {a : Answer × Option Nat}
      (hresult : effect.result = .ok a) (hthings : effect.session.things = s.things ++ more) :
      Leaves s effect
  | exchanged {effect : Effect} {number : Nat} {old new : Thing} {more : List Thing}
      {a : Answer × Option Nat} (hold : s.things[number]? = some old)
      (hother : ∀ t, old ≠ .transaction t) (hresult : effect.result = .ok a)
      (hthings : effect.session.things = s.things.set number new ++ more) : Leaves s effect
  | operated {α : Type} {number : Nat} {t : Transaction} {action : Action α} (answer : α → Value)
      (ht : s.things[number]? = some (.transaction t)) (h : action.Operates) :
      Leaves s (Effect.ofAction s number t action answer)

theorem leaves_fail (s : Session) (fault : Fault) : s.Leaves (.fail s fault) := .unchanged rfl

theorem leaves_answer (s : Session) (a : Answer) : s.Leaves (.answer s a) := .unchanged rfl

theorem leaves_make (s : Session) (thing : Thing) (a : Answer) (journal : List Event) :
    s.Leaves (.make s thing a journal) :=
  .extended rfl rfl

theorem leaves_andThen {α : Type} {result : Except Fault α} {next : α → Effect}
    (h : ∀ a, result = .ok a → s.Leaves (next a)) : s.Leaves (.andThen s result next) := by
  cases result with
  | error fault => exact leaves_fail s fault
  | ok a => exact h a rfl

theorem leaves_transaction (s : Session) (journal : Transaction → List Event)
    (result : Except Fault Transaction) : s.Leaves (.transaction s journal result) :=
  leaves_andThen fun _ _ => leaves_make s _ _ _

theorem leaves_outcome (s : Session) (journal : Transaction → List Event)
    (result : Except Fault Transaction) : s.Leaves (.outcome s journal result) := by
  refine leaves_andThen fun o _ => ?_
  cases o with
  | error fault => exact leaves_make s _ _ _
  | ok t => exact .extended rfl (List.append_assoc s.things [.transaction t] [_])

/-! ### Commands -/

theorem leaves_performTransaction [Stack] (scheme : Scheme PrivateKey) {t : Transaction}
    (ht : s.things[number]? = some (.transaction t)) (command : TransactionCommand) :
    s.Leaves (performTransaction scheme s number t command) := by
  cases command with
  | copy overrides =>
      exact leaves_andThen fun fields _ => leaves_andThen fun u _ => leaves_transaction s _ _
  | append signatures =>
      exact leaves_andThen fun x _ => .operated _ ht (Transaction.append_operates x)
  | sign key =>
      exact leaves_andThen fun key _ => .operated _ ht (Transaction.sign_operates scheme key)
  | combine raws =>
      exact leaves_andThen fun raws _ =>
        .operated _ ht (Transaction.combine_operates s.detailed raws)
  | get name =>
      rw [performTransaction]
      cases Transaction.Property.ofName? name with
      | none => exact leaves_fail s _
      | some property => exact .operated _ ht (Transaction.get_operates property)
  | encode => exact .operated _ ht Transaction.encode_observes.operates
  | encodeForSigning => exact .operated _ ht Transaction.encodeForSigning_observes.operates
  | message => exact .operated _ ht Transaction.messageForSigning_observes.operates
  | sender => exact .operated _ ht (Transaction.recoverSender_observes scheme).operates
  | captureSender => exact leaves_andThen fun o _ => leaves_answer s _
  | validate forSigning => exact leaves_andThen fun u _ => leaves_answer s _

theorem leaves_performBuilder [Stack] {b : Builder} (hb : s.things[number]? = some (.builder b))
    (command : BuilderCommand) : s.Leaves (performBuilder s number b command) := by
  cases command with
  | set name x =>
      refine leaves_andThen fun x _ => ?_
      cases Builder.Field.ofName? name with
      | none => exact leaves_fail s _
      | some field =>
          exact leaves_andThen fun b' _ =>
            .exchanged hb (fun t h => by cases h) rfl (List.append_nil _).symm
  | build => exact leaves_transaction s _ _
  | finalize => exact leaves_outcome s _ _

theorem leaves_performSlot [Stack] {slot : Slot} (hslot : s.things[number]? = some (.slot slot))
    (command : SlotCommand) : s.Leaves (performSlot s number slot command) := by
  cases command with
  | fill signature =>
      exact leaves_andThen fun x _ => leaves_andThen fun filled _ =>
        .exchanged hslot (fun t h => by cases h) rfl rfl
  | check => exact leaves_andThen fun u _ => leaves_answer s _
  | get => exact leaves_answer s _

theorem leaves_signedTemplate [Stack] (scheme : Scheme PrivateKey) (s : Session)
    (fields : List (String × Value)) (key : Option PrivateKey) :
    s.Leaves (signedTemplate scheme s fields key) := by
  refine leaves_andThen fun t _ => ?_
  cases key with
  | none => exact leaves_make s _ _ _
  | some key =>
      simp only
      cases (Transaction.sign scheme key t).result with
      | error fault => exact .unchanged rfl
      | ok sig => exact leaves_make s _ _ _

/-- **What any command leaves behind.** -/
theorem leaves_perform [Stack] (scheme : Scheme PrivateKey) (s : Session) (target : String)
    (command : Command) : s.Leaves (perform scheme s target command) := by
  cases command with
  | changeSetting text =>
      exact leaves_andThen fun setting _ => .extended rfl (List.append_nil s.things).symm
  | defaultPolicy => exact leaves_andThen fun p _ => leaves_make s _ _ _
  | newBuilder => exact leaves_make s _ _ _
  | newSlot policy owner =>
      rw [perform]
      cases Policy.ofText? policy with
      | none => exact leaves_fail s _
      | some p => exact leaves_make s _ _ _
  | create fields => exact leaves_andThen fun fields _ => leaves_transaction s _ _
  | template fields key =>
      exact leaves_andThen fun fields _ => leaves_andThen fun key _ =>
        leaves_signedTemplate scheme s fields key
  | decode raw policy => exact leaves_andThen fun reading _ => leaves_transaction s _ _
  | tryDecode raw policy => exact leaves_andThen fun reading _ => leaves_outcome s _ _
  | unwrap =>
      refine leaves_andThen fun found _ => ?_
      obtain ⟨number, thing⟩ := found
      cases thing with
      | outcome o =>
          cases o with
          | error fault => exact leaves_fail s fault
          | ok number =>
              simp only [unwrap]
              split
              · exact .unchanged rfl
              · exact leaves_fail s _
      | _ => exact leaves_fail s _
  | onTransaction command =>
      exact leaves_andThen fun found h =>
        leaves_performTransaction scheme (things_of_transaction h) command
  | onBuilder command =>
      exact leaves_andThen fun found h => leaves_performBuilder (things_of_builder h) command
  | onSlot command =>
      refine leaves_andThen fun found h => ?_
      obtain ⟨number, thing⟩ := found
      cases thing with
      | slot slot => exact leaves_performSlot (things_of_find h) command
      | misfilled slot x =>
          cases command with
          | get => exact leaves_answer s _
          | _ => exact leaves_fail s _
      | _ => exact leaves_fail s _
  | compare left right checkSignature =>
      refine leaves_andThen fun found h => leaves_andThen fun right _ => ?_
      cases right with
      | transaction u =>
          exact .operated _ (things_of_transaction h)
            (Transaction.compare_observes s.detailed u checkSignature).operates
      | other x => exact leaves_answer s _
  | difference left right checkSignature =>
      exact leaves_andThen fun t _ => leaves_andThen fun u _ => leaves_answer s _
  | claimEqual expected actual =>
      exact leaves_andThen fun x _ => leaves_andThen fun y _ =>
        leaves_andThen fun u _ => leaves_answer s _
  | requireEqual left right leftName rightName =>
      exact leaves_andThen fun x _ => leaves_andThen fun y _ =>
        leaves_andThen fun u _ => leaves_answer s _

/-! ### What commands keep -/

/-- Transactions stay where they are if things are added, or exchanged for others that were no
transactions. -/
theorem keeps_of_things {s' : Session}
    (h : ∀ (number : Nat) (t : Transaction), s.things[number]? = some (.transaction t) →
      s'.things[number]? = some (.transaction t)) : s.Keeps s' :=
  fun number t ht => ⟨t, h number t ht, .refl t⟩

/-- **An operation on a transaction keeps it**, whether it succeeds or fails. -/
theorem keeps_ofAction {α : Type} {t : Transaction} {action : Action α} (answer : α → Value)
    (ht : s.things[number]? = some (.transaction t)) (h : action.Advances) :
    s.Keeps (Effect.ofAction s number t action answer).session := by
  have hreplace : s.Keeps (s.replace number (.transaction (action t).transaction)) := by
    intro other u hu
    by_cases hother : number = other
    · subst hother
      cases ht.symm.trans hu
      obtain ⟨hlt, _⟩ := List.getElem?_eq_some_iff.1 ht
      exact ⟨_, List.getElem?_set_self hlt, h t⟩
    · exact ⟨u, (List.getElem?_set_ne hother).trans hu, .refl u⟩
  rw [Effect.ofAction]
  cases (action t).result with
  | error fault => exact hreplace
  | ok a =>
      refine hreplace.trans (keeps_of_things fun number t ht => ?_)
      obtain ⟨hlt, _⟩ := List.getElem?_eq_some_iff.1 ht
      exact (List.getElem?_append_left hlt).trans ht

/-- **What a command leaves behind has every transaction of the session.** -/
theorem Leaves.keeps {effect : Effect} (h : s.Leaves effect) : s.Keeps effect.session := by
  cases h with
  | unchanged hsession => exact hsession ▸ .refl s
  | extended _ hthings =>
      refine keeps_of_things fun number t ht => ?_
      obtain ⟨hlt, _⟩ := List.getElem?_eq_some_iff.1 ht
      rw [hthings, List.getElem?_append_left hlt, ht]
  | @exchanged _ number old new _ _ hold hother _ hthings =>
      refine keeps_of_things fun other t ht => ?_
      have hne : number ≠ other := by
        rintro rfl
        exact hother t (Option.some.inj (hold.symm.trans ht))
      have hset := (List.getElem?_set_ne (a := new) hne).trans ht
      obtain ⟨hlt, _⟩ := List.getElem?_eq_some_iff.1 hset
      rw [hthings, List.getElem?_append_left hlt, hset]
  | operated answer ht h => exact keeps_ofAction answer ht h.advances

/-- A thing that is put where it is changes nothing. -/
theorem replace_self {thing : Thing} (h : s.things[number]? = some thing) :
    s.replace number thing = s := by
  obtain ⟨hlt, rfl⟩ := List.getElem?_eq_some_iff.1 h
  rw [replace, List.set_getElem_self]

/-- **A command that fails changes nothing.** -/
theorem Leaves.session_of_error {effect : Effect} (h : s.Leaves effect) {fault : Fault}
    (hfault : effect.result = .error fault) : effect.session = s := by
  cases h with
  | unchanged hsession => exact hsession
  | extended hresult => cases hresult.symm.trans hfault
  | exchanged _ _ hresult => cases hresult.symm.trans hfault
  | @operated _ number t action answer ht h =>
      rw [Effect.ofAction] at hfault ⊢
      cases hresult : (action t).result with
      | error e =>
          simp only [h.atomic t e hresult]
          exact replace_self ht
      | ok a =>
          simp only [hresult] at hfault
          cases hfault

/-! ### Runs -/

/-- The session after some steps. -/
def after [Stack] (scheme : Scheme PrivateKey) (s : Session) (steps : List Step) : Session :=
  steps.foldl (fun s x => (s.step scheme x).2) s

theorem after_append [Stack] (scheme : Scheme PrivateKey) (s : Session) (steps more : List Step) :
    s.after scheme (steps ++ more) = (s.after scheme steps).after scheme more :=
  List.foldl_append

/-- **A step keeps every transaction**; giving a name to a thing changes no thing. -/
theorem keeps_step [Stack] (scheme : Scheme PrivateKey) (s : Session) (x : Step) :
    s.Keeps (s.step scheme x).2 := by
  have hperform := (leaves_perform scheme s (x.target.getD "") x.command).keeps
  rw [step]
  simp only
  split
  · exact hperform
  · exact hperform

/-- **A step that fails changes nothing**: no thing, no name and no setting. -/
theorem session_of_step_error [Stack] (scheme : Scheme PrivateKey) (s : Session) (x : Step)
    {fault : Fault} (h : (s.step scheme x).1.result = .error fault) : (s.step scheme x).2 = s := by
  rw [step] at h ⊢
  simp only at h ⊢
  cases hresult : (perform scheme s (x.target.getD "") x.command).result with
  | error e => exact (leaves_perform scheme s _ x.command).session_of_error hresult
  | ok a =>
      rw [hresult] at h
      cases h

/-- **A run keeps every transaction.** -/
theorem keeps_after [Stack] (scheme : Scheme PrivateKey) (s : Session) (steps : List Step) :
    s.Keeps (s.after scheme steps) := by
  induction steps generalizing s with
  | nil => exact .refl s
  | cons x rest ih => exact (keeps_step scheme s x).trans (ih _)

/-! ### Between two points of a run -/

/-- **What holds between two points of a run**: of every transaction of a session, and of a slot by
itself, whose answers are what was replaced. -/
theorem signature_lifecycle [Stack] :
    (∀ (scheme : Scheme PrivateKey) (s : Session) (number : Nat) (t : Transaction)
        (earlier later : List Step), s.things[number]? = some (.transaction t) →
      ∃ u w, (s.after scheme earlier).things[number]? = some (.transaction u) ∧
        (s.after scheme (earlier ++ later)).things[number]? = some (.transaction w) ∧
        t.Later u ∧ t.Later w ∧ u.Later w) ∧
    ∀ (slot : Slot) (earlier later : List Slot.Request),
      slot.Later (slot.askAll earlier) ∧ slot.Later (slot.askAll (earlier ++ later)) ∧
      (slot.askAll earlier).Later (slot.askAll (earlier ++ later)) ∧
      ∀ x held, ((slot.askAll earlier).ask x).1 = .ok (some held) →
        (slot.askAll earlier).signature = some held ∧ held.numbers = (1, 0, 0) := by
  constructor
  · intro scheme s number t earlier later ht
    obtain ⟨u, hu, htu⟩ := keeps_after scheme s earlier number t ht
    obtain ⟨w, hw, huw⟩ := keeps_after scheme (s.after scheme earlier) later number u hu
    rw [after_append]
    exact ⟨u, w, hu, hw, htu.later, (htu.trans huw).later, huw.later⟩
  · intro slot earlier later
    have hearlier := Slot.reaches_askAll slot earlier
    have hlater := Slot.reaches_askAll (slot.askAll earlier) later
    rw [Slot.askAll_append]
    refine ⟨hearlier.later, (hearlier.trans hlater).later, hlater.later, ?_⟩
    intro x held h
    obtain ⟨hheld, _, hnumbers⟩ := Slot.replaced_of_ask h
    exact ⟨hheld, hnumbers⟩

/-- A session with one transaction, which holds a placeholder. -/
def transferSession : Session :=
  { things := [.transaction Transaction.unsignedTransfer], names := [("t", 0)] }

/-- The step that attaches a signature to it. -/
def attaching (sig : Signature) : Step :=
  { command := .onTransaction (.append (.value (.signature sig))), target := some "t" }

open scoped Stack.Usual

/-- The placeholder is replaced by the first signature, which the second one does not replace. -/
theorem signature_lifecycle_transferSession :
    ∃ u w,
      (transferSession.after .secp256k1 [attaching Transaction.committed]).things[0]? =
        some (.transaction u) ∧
      (transferSession.after .secp256k1 ([attaching Transaction.committed] ++
        [attaching Transaction.uncommitted])).things[0]? = some (.transaction w) ∧
      u = Transaction.unsignedTransfer.holding Transaction.committed ∧ w = u := by
  obtain ⟨u, w, hu, hw, _, _, huw⟩ :=
    signature_lifecycle.1 .secp256k1 transferSession 0 Transaction.unsignedTransfer
      [attaching Transaction.committed] [attaching Transaction.uncommitted] rfl
  have hsigned : u = Transaction.unsignedTransfer.holding Transaction.committed := by
    cases hu
    rfl
  refine ⟨u, w, hu, hw, hsigned, ?_⟩
  subst hsigned
  cases hw
  rfl

/-! ### Combining and signing -/

open PlainTx.Transaction (append attach collectAll combine committed encode oneKey sign
  unsignedTransfer)

/-- **Combining and signing change nothing if they fail**, whatever is combined and whichever key
signs; a signature that was collected and attached can be written; and so it is through a session,
where the transaction is one thing among others. -/
theorem unchanged_of_error [Stack] (t : Transaction) :
    (∀ (detailed : Bool) (raws : Value) (fault : Fault),
      (combine detailed raws t).result = .error fault → (combine detailed raws t).transaction = t) ∧
    (∀ (Key : Type) (scheme : Scheme Key) (key : Key) (fault : Fault),
      (sign scheme key t).result = .error fault → (sign scheme key t).transaction = t) ∧
    (∀ (detailed : Bool) (raws : Value) (parts : List Value) (sigs : List Signature),
      raws.parts = .ok parts → (collectAll detailed [] parts t).result = .ok sigs →
      (append (.list (sigs.map .signature)) t).result = .ok () →
      ∃ form,
        (encode (append (.list (sigs.map .signature)) t).transaction).result = .ok form ∧
        (combine detailed raws t).result = .ok form ∧
        (combine detailed raws t).transaction =
          (append (.list (sigs.map .signature)) t).transaction) ∧
    ∀ (scheme : Scheme PrivateKey) (s : Session) (x : Step) (fault : Fault),
      (s.step scheme x).1.result = .error fault → (s.step scheme x).2 = s := by
  refine ⟨fun detailed raws => Transaction.combine_atomic detailed raws t,
    fun Key scheme key => Transaction.sign_atomic scheme key t, ?_,
    fun scheme s x _ => session_of_step_error scheme s x⟩
  intro detailed raws parts sigs hparts hcollected happend
  cases hattach : t.attach (.list (sigs.map .signature)) with
  | error fault =>
      rw [Transaction.append_of_error hattach] at happend
      cases happend
  | ok attached =>
      rw [Transaction.append_of_attach hattach, Transaction.encode_observes.result]
      exact Transaction.signedForm_of_collected hparts hcollected hattach

open scoped Stack.Usual

/-- A copy is followed by what is none; a signature is held already; the one copy is combined with;
and a step signs with no key. -/
theorem unchanged_of_error_unsignedTransfer :
    ∃ form,
      (combine true (.list [.bytes form, .none]) unsignedTransfer).transaction = unsignedTransfer ∧
      (sign oneKey () (unsignedTransfer.holding committed)).transaction =
        unsignedTransfer.holding committed ∧
      (combine true (.tuple [.bytes form]) unsignedTransfer).result = .ok form ∧
      (combine true (.tuple [.bytes form]) unsignedTransfer).transaction =
        unsignedTransfer.holding committed ∧
      (transferSession.step .secp256k1
        { command := .onTransaction (.sign (.value .none)), target := some "t" }).2 =
          transferSession := by
  obtain ⟨form, copy, hform, hcarried, hcopy⟩ := Transaction.exists_copy_unsignedTransfer
  obtain ⟨hcombine, _, hencode, hstep⟩ := unchanged_of_error unsignedTransfer
  have hforeign : ¬ unsignedTransfer.AllCopies [.bytes form, .none] := by
    intro h
    obtain ⟨none, hnone, _⟩ := h .none (by simp)
    cases hnone
  obtain ⟨_, hfault, _⟩ := Transaction.combine_of_foreign true hforeign
  have hoccupied : (unsignedTransfer.holding committed).slot.available = false := by decide
  have hcollected : (collectAll true [] [.bytes form] unsignedTransfer).result =
      .ok [committed] := by
    rw [(Transaction.collectAll_observes true [] _).result, List.mapM_cons,
      Transaction.copyOf_eq_ok_iff.2 (hcopy _ rfl), Result.ok_bind]
    exact congrArg Except.ok (by rw [List.foldl_cons, Transaction.collect_eq, hcarried]; rfl)
  have happend : append (.list ([committed].map .signature)) unsignedTransfer =
      ⟨.ok (), unsignedTransfer.holding committed, _⟩ :=
    Transaction.append_of_attach (Transaction.attach_of_available (by decide) rfl)
  obtain ⟨form', hform', hresult, htransaction⟩ :=
    hencode true (.tuple [.bytes form]) _ _ rfl hcollected (by rw [happend])
  rw [happend, Transaction.encode_observes.result, hform] at hform'
  cases hform'
  exact ⟨form, hcombine _ _ _ hfault,
    (unchanged_of_error _).2.1 _ _ _ _ (by rw [Transaction.sign_of_occupied hoccupied]),
    hresult, htransaction.trans (by rw [happend]), hstep _ _ _ _ rfl⟩

end PlainTx.Session
