/-
**A chosen policy shields from the setting.**

The setting gives the policy of a transaction for which none is chosen, and is good for nothing
else.  So a session in which a policy is chosen for every transaction that is made, and in which
nobody asks for the policy of the setting, does not depend on the setting: whatever text the setting
has at each point, known or unknown or none, the replies are the same, and so is everything the
session holds.  A copy for which no other policy is chosen has the one of its original.

Main definitions:

* `PlainTx.Session.under`, `PlainTx.Session.Effect.under` — a session, and what a command leaves
  behind, with another text for the setting;
* `PlainTx.Session.choice?` — what a command chooses as the policy of a transaction it makes;
* `PlainTx.Session.AlwaysChosen` — in a run, a policy is chosen whenever one is needed;
* `PlainTx.Step.Alike` — two steps are the same but for the text that they give to the setting.

Main results:

* `PlainTx.Transaction.create_of_chosen`, `PlainTx.Transaction.copy_of_chosen`,
  `PlainTx.Transaction.template_of_chosen`, `PlainTx.Transaction.decodeWith_of_chosen`,
  `PlainTx.Builder.build_of_chosen` — **what is made does not depend on the setting**;
* `PlainTx.Session.perform_under` — **nor does a command**;
* `PlainTx.Session.step_alike` — **nor does a step**;
* `PlainTx.Transaction.policy_of_copy` — the policy of a copy;
* `PlainTx.Session.run_of_alwaysChosen` — **two runs that differ in the setting only**.
-/

import PlainTx.Proofs.Creation
import PlainTx.Proofs.Sessions

set_option relaxedAutoImplicit false
set_option autoImplicit false

namespace PlainTx

/-! ### What is made under a chosen policy -/

/-- The setting is looked at only where no policy is chosen. -/
theorem Policy.choose_of_chosen (setting setting' : Option String) {chosen : Option Policy}
    (h : chosen ≠ none) : choose setting' chosen = choose setting chosen := by
  cases chosen with
  | none => exact absurd rfl h
  | some p => rfl

/-- The policy that arguments choose is the one that is given under its name. -/
theorem Arguments.policy_of_ofFields {fields : List (String × Value)} {a : Arguments}
    (h : ofFields fields = .ok a) :
    (fields.lookup "signature_policy").getD .none = Policy.optionalValue a.policy := by
  obtain ⟨_, _, _, _, _, hpolicy, rfl⟩ := exists_of_ofFields h
  exact hpolicy

namespace Transaction

variable (setting setting' : Option String)

theorem create_of_chosen [Stack] {a : Arguments} (h : a.policy ≠ none) :
    create setting' a = create setting a := by
  simp only [create, assemble, Policy.choose_of_chosen setting setting' h]

/-- The transaction of named arguments, one of which chooses the policy. -/
theorem create_ofFields_of_chosen [Stack] {fields : List (String × Value)}
    (h : (fields.lookup "signature_policy").getD .none ≠ .none) :
    (Arguments.ofFields fields >>= create setting') =
      Arguments.ofFields fields >>= create setting := by
  cases ha : Arguments.ofFields fields with
  | error fault => rfl
  | ok a =>
      have hchosen : a.policy ≠ none := fun hnone => h (by
        rw [Arguments.policy_of_ofFields ha, hnone]
        rfl)
      exact create_of_chosen setting setting' hchosen

/-- A copy takes over the policy, if no other one is chosen. -/
theorem lookup_policy_of_copy (t : Transaction) (overrides : List (String × Value)) :
    (overrides ++ t.fields).lookup "signature_policy" =
      some ((overrides.lookup "signature_policy").getD (.policy t.policy)) := by
  rw [List.lookup_append]
  cases overrides.lookup "signature_policy" with
  | none => rfl
  | some chosen => rfl

theorem copy_of_chosen [Stack] {t : Transaction} {overrides : List (String × Value)}
    (h : overrides.lookup "signature_policy" ≠ some .none) :
    t.copy setting' overrides = t.copy setting overrides := by
  have hchosen : ((overrides ++ t.fields).lookup "signature_policy").getD .none ≠ .none := by
    rw [lookup_policy_of_copy]
    cases hoverride : overrides.lookup "signature_policy" with
    | none => exact nofun
    | some chosen =>
        rintro rfl
        exact h hoverride
  simp only [copy, create_ofFields_of_chosen setting setting' hchosen]

/-- **A copy for which no policy is chosen has the policy of its original.** -/
theorem policy_of_copy [Stack] {setting : Option String} {t u : Transaction}
    {overrides : List (String × Value)} (hpolicy : overrides.lookup "signature_policy" = none)
    (h : t.copy setting overrides = .ok u) : u.policy = t.policy := by
  simp only [copy] at h
  split at h
  · obtain ⟨a, ha, h⟩ := Result.bind_eq_ok.1 h
    have hchosen : a.policy = some t.policy := by
      have hvalue := Arguments.policy_of_ofFields ha
      rw [lookup_policy_of_copy, hpolicy] at hvalue
      exact (Except.ok.inj (Policy.ofValue_eq_ok_iff.2 hvalue)).symm
    obtain ⟨recipient, value, input, common, _, _, _, _, h⟩ := create_eq_ok_iff.1 h
    rw [hchosen] at h
    rcases (withSignatures_eq_ok_iff rfl).1 h with ⟨_, rfl⟩ | ⟨sig, _, rfl⟩
    · rfl
    · rfl
  · cases h

/-- The name of the policy is the same for templates. -/
theorem lookup_policy_of_template (given : List (String × Value)) :
    ((given ++ templateDefaults).map fun (name, x) =>
        (if name = "data" then "input" else name, x)).lookup "signature_policy" =
      some ((given.lookup "signature_policy").getD .none) := by
  induction given with
  | nil => rfl
  | cons field rest ih =>
      obtain ⟨name, x⟩ := field
      by_cases hname : name = "signature_policy"
      · subst hname
        rfl
      · have hother : "signature_policy" ≠ (if name = "data" then "input" else name) := by
          split
          · decide
          · exact Ne.symm hname
        rw [List.cons_append, List.map_cons, List.lookup_cons, List.lookup_cons,
          beq_false_of_ne hother, beq_false_of_ne (Ne.symm hname)]
        exact ih

theorem template_of_chosen [Stack] {given : List (String × Value)}
    (h : (given.lookup "signature_policy").getD .none ≠ .none) :
    template setting' given = template setting given := by
  have hchosen : (((given ++ templateDefaults).map fun (name, x) =>
      (if name = "data" then "input" else name, x)).lookup "signature_policy").getD .none ≠
        .none := by
    rw [lookup_policy_of_template]
    exact h
  simp only [template, create_ofFields_of_chosen setting setting' hchosen]

theorem decodeWith_of_chosen [Stack] {policy : Option Policy} (h : policy ≠ none) (x : Value) :
    decodeWith setting' policy x = decodeWith setting policy x := by
  rw [decodeWith, decodeWith, Policy.choose_of_chosen setting setting' h]

end Transaction

theorem Builder.build_of_chosen [Stack] (setting setting' : Option String) {b : Builder}
    (h : b.policy ≠ none) :
    b.build setting' = b.build setting := by
  simp only [build, Transaction.assemble, Policy.choose_of_chosen setting setting' h]

namespace Session

/-! ### Sessions that differ in the setting -/

/-- The session with another text for the setting. -/
def under (s : Session) (text : Option String) : Session := { s with setting := text }

/-- What a command leaves behind, with another text for the setting. -/
def Effect.under (effect : Effect) (text : Option String) : Effect :=
  { effect with session := effect.session.under text }

variable {s : Session} {text : Option String} {number : Nat}

mutual

/-- Operands stand for the same values; the induction is on the operand. -/
theorem resolve_under [Stack] (s : Session) (text : Option String) (o : Operand) :
    (s.under text).resolve o = s.resolve o := by
  match o with
  | .list items => simp only [resolve, resolveAll_under s text items]
  | .tuple items => simp only [resolve, resolveAll_under s text items]
  | .dict entries => simp only [resolve, resolveEntries_under s text entries]
  | .signature components => simp only [resolve, resolveAll_under s text components]
  | .value x | .integer x | .real x | .policy x | .register x => rfl

theorem resolveAll_under [Stack] (s : Session) (text : Option String) (items : List Operand) :
    (s.under text).resolveAll items = s.resolveAll items := by
  match items with
  | [] => rfl
  | o :: rest => simp only [resolveAll, resolve_under s text o, resolveAll_under s text rest]

theorem resolveEntries_under [Stack] (s : Session) (text : Option String)
    (entries : List (Operand × Operand)) (entered : List (Value × Value)) :
    (s.under text).resolveEntries entered entries = s.resolveEntries entered entries := by
  match entries with
  | [] => rfl
  | (key, o) :: rest =>
      simp only [resolveEntries, resolve_under s text key, resolve_under s text o,
        resolveEntries_under s text rest]

end

theorem resolveFields_under [Stack] (s : Session) (text : Option String)
    (fields : List (String × Operand)) :
    (s.under text).resolveFields fields = s.resolveFields fields := by
  simp only [resolveFields, resolve_under]

theorem subject_under [Stack] (s : Session) (text : Option String) (o : Operand) :
    (s.under text).subject o = s.subject o := by
  cases o with
  | register name => rfl
  | _ => simp only [subject, resolve_under]

theorem readingOf_under [Stack] (s : Session) (text : Option String) (raw policy : Operand) :
    (s.under text).readingOf raw policy = s.readingOf raw policy := by
  simp only [readingOf, resolve_under]

/-- What a reading chooses as its policy is what the operand for it stands for. -/
theorem resolve_of_readingOf [Stack] {raw policy : Operand} {x : Value} {chosen : Option Policy}
    (h : s.readingOf raw policy = .ok (x, chosen)) :
    s.resolve policy = .ok (Policy.optionalValue chosen) := by
  obtain ⟨_, _, h⟩ := Result.bind_eq_ok.1 h
  obtain ⟨y, hy, h⟩ := Result.bind_eq_ok.1 h
  obtain ⟨_, hpolicy, h⟩ := Result.bind_eq_ok.1 h
  cases h
  rw [hy, Policy.ofValue_eq_ok_iff.1 hpolicy]

/-! ### Effects that differ in the setting -/

theorem andThen_under {α : Type} {result : Except Fault α} {next next' : α → Effect}
    (h : ∀ a, result = .ok a → next' a = (next a).under text) :
    Effect.andThen (s.under text) result next' = (Effect.andThen s result next).under text := by
  cases result with
  | error fault => rfl
  | ok a => exact h a rfl

theorem transaction_under (s : Session) (text : Option String)
    (journal : Transaction → List Event) (result : Except Fault Transaction) :
    Effect.transaction (s.under text) journal result =
      (Effect.transaction s journal result).under text :=
  andThen_under fun _ _ => rfl

theorem outcome_under (s : Session) (text : Option String) (journal : Transaction → List Event)
    (result : Except Fault Transaction) :
    Effect.outcome (s.under text) journal result =
      (Effect.outcome s journal result).under text := by
  refine andThen_under fun o _ => ?_
  cases o with
  | error fault => rfl
  | ok t => rfl

theorem ofAction_under {α : Type} (s : Session) (text : Option String) (number : Nat)
    (t : Transaction) (action : Action α) (answer : α → Value) :
    Effect.ofAction (s.under text) number t action answer =
      (Effect.ofAction s number t action answer).under text := by
  simp only [Effect.ofAction]
  cases (action t).result with
  | error fault => rfl
  | ok a => rfl

/-! ### Commands under another setting -/

/-- What a command chooses as the policy of a transaction that it makes: nothing, if it leaves the
choice to the setting, and the same if it asks for the policy of the setting itself.  A command that
makes no transaction chooses none, and a copy takes over what it does not choose. -/
def choice? [Stack] (s : Session) (target : String) : Command → Option Value
  | .defaultPolicy => some .none
  | .create fields | .template fields _ =>
    (s.resolveFields fields).toOption.map fun fields =>
      (fields.lookup "signature_policy").getD .none
  | .decode _ policy | .tryDecode _ policy => (s.resolve policy).toOption
  | .onTransaction (.copy overrides) =>
    (s.resolveFields overrides).toOption.bind (·.lookup "signature_policy")
  | .onBuilder .build | .onBuilder .finalize =>
    (s.builder target).toOption.map fun (_, b) => Policy.optionalValue b.policy
  | _ => none

theorem signedTemplate_under [Stack] (scheme : Scheme PrivateKey) {fields : List (String × Value)}
    (h : (fields.lookup "signature_policy").getD .none ≠ .none) (key : Option PrivateKey) :
    signedTemplate scheme (s.under text) fields key =
      (signedTemplate scheme s fields key).under text := by
  rw [signedTemplate, Transaction.template_of_chosen s.setting _ h]
  refine andThen_under fun t _ => ?_
  cases key with
  | none => rfl
  | some key =>
      simp only
      cases (Transaction.sign scheme key t).result with
      | error fault => rfl
      | ok sig => rfl

theorem performTransaction_under [Stack] (scheme : Scheme PrivateKey) {t : Transaction}
    {target : String} {command : TransactionCommand}
    (h : s.choice? target (.onTransaction command) ≠ some .none) :
    performTransaction scheme (s.under text) number t command =
      (performTransaction scheme s number t command).under text := by
  cases command with
  | copy overrides =>
      rw [performTransaction, resolveFields_under]
      refine andThen_under fun fields hfields => andThen_under fun u _ => ?_
      have hchosen : fields.lookup "signature_policy" ≠ some .none := by
        rwa [choice?, hfields] at h
      rw [Transaction.copy_of_chosen s.setting _ hchosen]
      exact transaction_under s text _ _
  | append signatures =>
      rw [performTransaction, resolve_under]
      exact andThen_under fun x _ => ofAction_under s text number t _ _
  | sign key =>
      rw [performTransaction, resolve_under]
      exact andThen_under fun key _ => ofAction_under s text number t _ _
  | combine raws =>
      rw [performTransaction, resolve_under]
      exact andThen_under fun raws _ => ofAction_under s text number t _ _
  | get name =>
      rw [performTransaction, performTransaction]
      cases Transaction.Property.ofName? name with
      | none => rfl
      | some property => exact ofAction_under s text number t _ _
  | captureSender => exact andThen_under fun o _ => rfl
  | validate forSigning => exact andThen_under fun u _ => rfl
  | _ => exact ofAction_under s text number t _ _

theorem performBuilder_under [Stack] {b : Builder} {target : String} {command : BuilderCommand}
    (hb : s.builder target = .ok (number, b))
    (h : s.choice? target (.onBuilder command) ≠ some .none) :
    performBuilder (s.under text) number b command =
      (performBuilder s number b command).under text := by
  have hchosen : command = .build ∨ command = .finalize → b.policy ≠ none := by
    intro hcommand hnone
    have hchoice : (s.builder target).toOption.map
        (fun (_, b) => Policy.optionalValue b.policy) = some .none := by
      rw [hb]
      exact congrArg (fun policy => some (Policy.optionalValue policy)) hnone
    rcases hcommand with rfl | rfl
    · exact h hchoice
    · exact h hchoice
  cases command with
  | set field x =>
      rw [performBuilder, resolve_under]
      refine andThen_under fun x _ => ?_
      cases Builder.Field.ofName? field with
      | none => rfl
      | some field => exact andThen_under fun b _ => rfl
  | build =>
      rw [performBuilder, Builder.build_of_chosen s.setting _ (hchosen (.inl rfl))]
      exact transaction_under s text _ _
  | finalize =>
      rw [performBuilder, Builder.build_of_chosen s.setting _ (hchosen (.inr rfl))]
      exact outcome_under s text _ _

theorem performSlot_under [Stack] (s : Session) (text : Option String) (number : Nat) (slot : Slot)
    (command : SlotCommand) :
    performSlot (s.under text) number slot command =
      (performSlot s number slot command).under text := by
  cases command with
  | fill signature =>
      rw [performSlot, resolve_under]
      exact andThen_under fun x _ => andThen_under fun filled _ => rfl
  | check => exact andThen_under fun u _ => rfl
  | get => rfl

theorem unwrap_under (s : Session) (text : Option String) (o : Except Fault Nat) :
    unwrap (s.under text) o = (unwrap s o).under text := by
  cases o with
  | error fault => rfl
  | ok number =>
      have hthings : (s.under text).things = s.things := rfl
      simp only [unwrap, hthings]
      split
      · rfl
      · rfl

/-- **A command that leaves no policy to the setting** does the same under every text that does not
change it. -/
theorem perform_under [Stack] (scheme : Scheme PrivateKey) {target : String} {command : Command}
    (h : s.choice? target command ≠ some .none)
    (hsetting : ∀ new, command ≠ .changeSetting new) :
    perform scheme (s.under text) target command =
      (perform scheme s target command).under text := by
  cases command with
  -- these two are the commands that are excluded
  | changeSetting new => exact absurd rfl (hsetting new)
  | defaultPolicy => exact absurd rfl h
  | newBuilder => rfl
  | newSlot policy owner =>
      rw [perform, perform]
      cases Policy.ofText? policy with
      | none => rfl
      | some policy => rfl
  | create fields =>
      rw [perform, resolveFields_under]
      refine andThen_under fun fields hfields => ?_
      have hchosen : (fields.lookup "signature_policy").getD .none ≠ .none := fun hnone =>
        h (by rw [choice?, hfields]; exact congrArg some hnone)
      rw [Transaction.create_ofFields_of_chosen s.setting _ hchosen]
      exact transaction_under s text _ _
  | template fields key =>
      rw [perform, resolveFields_under, resolve_under]
      refine andThen_under fun fields hfields => andThen_under fun key _ => ?_
      have hchosen : (fields.lookup "signature_policy").getD .none ≠ .none := fun hnone =>
        h (by rw [choice?, hfields]; exact congrArg some hnone)
      exact signedTemplate_under scheme hchosen key
  | decode raw policy =>
      rw [perform, readingOf_under]
      refine andThen_under ?_
      rintro ⟨x, chosen⟩ hreading
      have hchosen : chosen ≠ none := fun hnone =>
        h (by rw [choice?, resolve_of_readingOf hreading, hnone]; rfl)
      dsimp only
      rw [Transaction.decodeWith_of_chosen s.setting _ hchosen]
      exact transaction_under s text _ _
  | tryDecode raw policy =>
      rw [perform, readingOf_under]
      refine andThen_under ?_
      rintro ⟨x, chosen⟩ hreading
      have hchosen : chosen ≠ none := fun hnone =>
        h (by rw [choice?, resolve_of_readingOf hreading, hnone]; rfl)
      dsimp only
      rw [Transaction.decodeWith_of_chosen s.setting _ hchosen]
      exact outcome_under s text _ _
  | unwrap =>
      refine andThen_under ?_
      rintro ⟨_, thing⟩ _
      cases thing with
      | outcome o => exact unwrap_under s text o
      | _ => rfl
  | onTransaction command =>
      refine andThen_under ?_
      rintro ⟨number, t⟩ _
      exact performTransaction_under scheme h
  | onBuilder command =>
      refine andThen_under ?_
      rintro ⟨number, b⟩ hb
      exact performBuilder_under hb h
  | onSlot command =>
      refine andThen_under ?_
      rintro ⟨number, thing⟩ _
      cases thing with
      | slot slot => exact performSlot_under s text number slot command
      | misfilled slot x => cases command <;> rfl
      | _ => rfl
  | compare left right checkSignature =>
      rw [perform, subject_under]
      refine andThen_under ?_
      rintro ⟨number, t⟩ _
      refine andThen_under fun right _ => ?_
      cases right with
      | transaction u => exact ofAction_under s text number t _ _
      | other x => rfl
  | difference left right checkSignature =>
      refine andThen_under ?_
      rintro ⟨_, t⟩ _
      refine andThen_under ?_
      rintro ⟨_, u⟩ _
      rfl
  | claimEqual expected actual =>
      rw [perform, subject_under, subject_under]
      exact andThen_under fun x _ => andThen_under fun y _ => andThen_under fun u _ => rfl
  | requireEqual left right leftName rightName =>
      rw [perform, subject_under, subject_under]
      exact andThen_under fun x _ => andThen_under fun y _ => andThen_under fun u _ => rfl

end Session

/-! ### Steps that differ in the setting -/

/-- Two commands are the same, or give two texts to the setting, both of which it can be given. -/
inductive Command.Alike : Command → Command → Prop
  | same (command : Command) : Alike command command
  | changeSetting {text text' : Option String} (h : Setting.given text = .ok text)
      (h' : Setting.given text' = .ok text') : Alike (.changeSetting text) (.changeSetting text')

/-- Two steps are the same, but for the text that they may give to the setting. -/
structure Step.Alike (x y : Step) : Prop where
  command : x.command.Alike y.command
  target : y.target = x.target
  keep : y.keep = x.keep

theorem Step.Alike.refl (x : Step) : x.Alike x := ⟨.same _, rfl, rfl⟩

namespace Session

variable {s : Session} {text : Option String}

/-- Alike commands do the same, if they leave no policy to the setting. -/
theorem exists_perform_under [Stack] (scheme : Scheme PrivateKey) (text : Option String)
    {target : String} {command command' : Command} (h : command.Alike command')
    (hchosen : s.choice? target command ≠ some .none) :
    ∃ later, perform scheme (s.under text) target command' =
      (perform scheme s target command).under later := by
  cases h with
  | changeSetting h h' => exact ⟨_, by rw [perform, perform, h, h']; rfl⟩
  | same =>
      by_cases hsetting : ∃ new, command = .changeSetting new
      · -- the setting is changed by both, or by none
        obtain ⟨new, rfl⟩ := hsetting
        cases hnew : Setting.given new with
        | error fault => exact ⟨text, by rw [perform, perform, hnew]; rfl⟩
        | ok given => exact ⟨given, by rw [perform, perform, hnew]; rfl⟩
      · exact ⟨text, perform_under scheme hchosen fun new hnew => hsetting ⟨new, hnew⟩⟩

/-- **Alike steps have the same reply**, and leave the same behind but for the setting, if they
leave no policy to the setting. -/
theorem step_alike [Stack] (scheme : Scheme PrivateKey) (text : Option String) {x y : Step}
    (hxy : x.Alike y) (hchosen : s.choice? (x.target.getD "") x.command ≠ some .none) :
    ∃ later, (s.under text).step scheme y =
      ((s.step scheme x).1, (s.step scheme x).2.under later) := by
  obtain ⟨later, hperform⟩ := exists_perform_under scheme text hxy.command hchosen
  refine ⟨later, ?_⟩
  rw [step, step, hxy.target, hxy.keep, hperform]
  simp only [Effect.under]
  split
  · rfl
  · rfl

/-! ### Runs that differ in the setting -/

/-- In a run, nobody asks for the policy of the setting, and a policy is chosen for every
transaction that is made. -/
def AlwaysChosen [Stack] (scheme : Scheme PrivateKey) (s : Session) : List Step → Prop
  | [] => True
  | x :: rest =>
    s.choice? (x.target.getD "") x.command ≠ some .none ∧
      AlwaysChosen scheme (s.step scheme x).2 rest

/-- **Two runs that differ in the setting only**: under every text that the setting has at the
start, and whichever texts it is given on the way, the replies are the same, and so is all that is
there after each step; and a copy for which no policy is chosen has the one of its original. -/
theorem run_of_alwaysChosen [Stack] (scheme : Scheme PrivateKey) {s : Session}
    {steps steps' : List Step} (hchosen : s.AlwaysChosen scheme steps)
    (halike : List.Forall₂ Step.Alike steps steps') (text : Option String) :
    run scheme (s.under text) steps' = run scheme s steps ∧
    (∀ n, ∃ later, (s.under text).after scheme (steps'.take n) =
      (s.after scheme (steps.take n)).under later) ∧
    ∀ (setting : Option String) (t u : Transaction) (overrides : List (String × Value)),
      overrides.lookup "signature_policy" = none → t.copy setting overrides = .ok u →
      u.policy = t.policy := by
  refine ⟨?_, ?_, fun setting t u overrides hpolicy h => Transaction.policy_of_copy hpolicy h⟩
  · induction halike generalizing s text with
    | nil => rfl
    | cons hxy _ ih =>
        obtain ⟨later, hstep⟩ := step_alike scheme text hxy hchosen.1
        rw [run, run, hstep]
        exact congrArg _ (ih hchosen.2 later)
  · induction halike generalizing s text with
    | nil => exact fun n => ⟨text, by rw [List.take_nil]; rfl⟩
    | cons hxy _ ih =>
        rintro (_ | n)
        · exact ⟨text, rfl⟩
        · obtain ⟨later, hstep⟩ := step_alike scheme text hxy hchosen.1
          rw [List.take_succ_cons, List.take_succ_cons, after, List.foldl_cons, hstep]
          exact ih hchosen.2 later n

/-- A step that makes a transfer under a policy. -/
def transferring (p : Policy) (keep : String) : Step :=
  { command := .create [("to", .value (.bytes (List.replicate 20 0x35))),
      ("value", .value (.text "0x1")), ("signature_policy", .value (.policy p))]
    keep := some keep }

/-- The step that copies the transaction of one name under another name. -/
def copying (target keep : String) : Step :=
  { command := .onTransaction (.copy []), target := some target, keep := some keep }

/-- A transfer is made, copied and given a signature, while the setting is given a text. -/
def transferringUnder (text : Option String) : List Step :=
  [transferring .replaceEmpty "u", { command := .changeSetting text }, copying "u" "w",
    attaching Transaction.committed]

open scoped Stack.Usual

/-- A setting that is given an unknown text, and one that is given none. -/
theorem run_of_alwaysChosen_transferring :
    transferSession.AlwaysChosen .secp256k1 (transferringUnder none) ∧
    List.Forall₂ Step.Alike (transferringUnder none) (transferringUnder (some "anything")) ∧
    run .secp256k1 (transferSession.under (some "reject")) (transferringUnder (some "anything")) =
      run .secp256k1 transferSession (transferringUnder none) ∧
    ∃ later, (transferSession.under (some "reject")).after .secp256k1
        (transferringUnder (some "anything")) =
      (transferSession.after .secp256k1 (transferringUnder none)).under later := by
  have hchosen : transferSession.AlwaysChosen .secp256k1 (transferringUnder none) :=
    ⟨nofun, nofun, nofun, nofun, trivial⟩
  have hgiven : Setting.given (some "anything") = .ok (some "anything") := by
    simp [Setting.given]
  have halike :
      List.Forall₂ Step.Alike (transferringUnder none) (transferringUnder (some "anything")) :=
    .cons (.refl _) (.cons ⟨.changeSetting rfl hgiven, rfl, rfl⟩ (.cons (.refl _)
      (.cons (.refl _) .nil)))
  obtain ⟨hrun, hafter, _⟩ := run_of_alwaysChosen .secp256k1 hchosen halike (some "reject")
  exact ⟨hchosen, halike, hrun, hafter 4⟩

end Session

end PlainTx
