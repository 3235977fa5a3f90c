/-
**Building agrees with creating.**

A builder in a session is changed by calls of its setters, of which some are not answered.  Whatever
the calls are, and in whichever order, a step that builds then has the same reply, and leaves the
same session, as the step that creates a transaction from the last arguments that the setters took.
Finalizing records this reply, unless it is a fault that has no kind: because what is given for the
signatures has no length or holds something that cannot be printed, or because there is no policy.

Main definitions:

* `PlainTx.Builder.Call` — a call of a setter;
* `PlainTx.Session.calling`, `PlainTx.Session.lastGiven` — the step that calls a setter, and the
  argument of the last such step that was answered;
* `PlainTx.Session.building`, `PlainTx.Session.finalizing`, `PlainTx.Session.creatingFrom` — the
  steps that build, finalize and create.

Main results:

* `PlainTx.Session.step_calling` — **a call of a setter**;
* `PlainTx.Session.exists_collected_of_calling` — **what a builder holds after setter calls**;
* `PlainTx.Session.capture_map_outcome_iff` — which outcomes are recorded;
* `PlainTx.Session.build_agrees` — **a builder after any setter calls**;
* `PlainTx.Session.finalize_longPart` — a fault that is not recorded.
-/

import PlainTx.Proofs.Building
import PlainTx.Proofs.FaultKinds
import PlainTx.Proofs.Sessions

set_option relaxedAutoImplicit false
set_option autoImplicit false

namespace PlainTx

/-- A call of a setter with a value of a kind that the setter is made for. -/
structure Builder.Call where
  /-- The field that is set. -/
  field : Builder.Field
  /-- What it is set to. -/
  argument : Value
  /-- A policy is chosen, or the choice is left open; all other setters take any value. -/
  typed : field = .policy → ∃ chosen, argument = Policy.optionalValue chosen

namespace Session

variable {s : Session} {name : String} {number : Nat} {scheme : Scheme PrivateKey}

/-! ### Setter calls in a session -/

/-- The step that calls a setter of the builder that a name stands for. -/
def calling (name : String) (call : Builder.Call) : Step :=
  { command := .onBuilder (.set call.field.name (.value call.argument)), target := some name }

/-- The argument of the last call of the setter of a field that was answered. -/
def lastGiven (calls : List Builder.Call) (replies : List Reply)
    (field : Builder.Field) : Option Value :=
  ((calls.zip replies).reverse.find? fun (call, reply) =>
    decide (call.field = field) && reply.result.toBool).map fun (call, _) => call.argument

theorem lastGiven_cons (call : Builder.Call) (calls : List Builder.Call)
    (reply : Reply) (replies : List Reply) (field : Builder.Field) :
    lastGiven (call :: calls) (reply :: replies) field =
      (lastGiven calls replies field).or
        (if call.field = field ∧ reply.result.toBool = true then some call.argument else none) := by
  simp only [lastGiven, List.zip_cons_cons, List.reverse_cons, List.find?_append, Option.map_or]
  by_cases h : call.field = field ∧ reply.result.toBool = true
  · rw [if_pos h, List.find?_cons_of_pos (by simpa using h)]
    rfl
  · rw [if_neg h, List.find?_cons_of_neg (by simpa using h)]
    rfl

/-- A builder that is changed is found under the same names. -/
theorem builder_replace {b c : Builder} (h : s.builder name = .ok (number, b)) :
    (s.replace number (.builder c)).builder name = .ok (number, c) := by
  obtain ⟨⟨found, thing⟩, hfind, h⟩ := Result.bind_eq_ok.1 h
  have hsame : found = number := by
    cases thing with
    | builder b => cases h; rfl
    | _ => cases h
  subst hsame
  have hthing := things_of_find hfind
  obtain ⟨hlt, _⟩ := List.getElem?_eq_some_iff.1 hthing
  have hnames : s.names.lookup name = some found := by
    unfold find at hfind
    split at hfind
    · cases hfind
    · next other hlookup =>
        split at hfind
        · cases hfind
        · cases hfind
          exact hlookup
  have hnew : (s.replace found (.builder c)).find name = .ok (found, .builder c) := by
    simp only [find, replace, hnames, List.getElem?_set_self hlt]
  rw [builder, hnew]
  rfl

/-- **A call of a setter** is answered if the setter takes its argument, which then changes the
builder; otherwise it leaves the session as it was. -/
theorem step_calling [Stack] (scheme : Scheme PrivateKey) {b : Builder}
    (h : s.builder name = .ok (number, b)) (call : Builder.Call) :
    (s.step scheme (calling name call)).1.result =
        (b.set call.field call.argument).map (fun _ => .value (.bool true)) ∧
      (s.step scheme (calling name call)).2 =
        ((b.set call.field call.argument).toOption.elim s fun c =>
          s.replace number (.builder c)) := by
  have hperform : perform scheme s name (.onBuilder (.set call.field.name (.value call.argument))) =
      Effect.andThen s (b.set call.field call.argument) fun c =>
        { session := s.replace number (.builder c)
          result := .ok (.value (.bool true), some number) } := by
    rw [perform, h]
    simp only [Effect.andThen, performBuilder, resolve, Builder.Field.ofName?_name]
  rw [step, calling, Option.getD_some, hperform]
  cases b.set call.field call.argument with
  | error fault => exact ⟨rfl, rfl⟩
  | ok c => exact ⟨rfl, rfl⟩

/-- A call of a setter that is not answered leaves the session as it was. -/
theorem session_of_calling_error [Stack] {call : Builder.Call} {fault : Fault}
    (h : (s.step scheme (calling name call)).1.result = .error fault) :
    (s.step scheme (calling name call)).2 = s := by
  cases hb : s.builder name with
  | error missing =>
      rw [step, calling, Option.getD_some, perform, hb]
      rfl
  | ok found =>
      obtain ⟨number, b⟩ := found
      obtain ⟨hresult, hsession⟩ := step_calling scheme hb call
      rw [hsession]
      cases hset : b.set call.field call.argument with
      | error fault => rfl
      | ok c =>
          rw [hresult, hset] at h
          cases h

/-- What a builder holds after one call of a setter. -/
theorem exists_collected_of_step [Stack] (scheme : Scheme PrivateKey)
    {given : Builder.Field → Option Value} {b : Builder}
    (hb : s.builder name = .ok (number, b)) (hgiven : b.Collected given)
    (call : Builder.Call) :
    ∃ c, (s.step scheme (calling name call)).2.builder name = .ok (number, c) ∧
      c.Collected fun field =>
        (if call.field = field ∧ (s.step scheme (calling name call)).1.result.toBool = true
          then some call.argument else none).or (given field) := by
  obtain ⟨hresult, hsession⟩ := step_calling scheme hb call
  rw [hresult, hsession]
  cases hset : b.set call.field call.argument with
  | error fault =>
      -- nothing is taken, and the builder is the same
      refine ⟨b, hb, ?_⟩
      simpa [Except.map, Except.toBool] using hgiven
  | ok c =>
      -- the value comes before what was given for its field until now
      refine ⟨c, builder_replace hb, ?_⟩
      convert Builder.collected_set hgiven hset using 2 with field
      by_cases hfield : call.field = field
      · simp [Builder.give, hfield, Except.map, Except.toBool]
      · simp [Builder.give, hfield, Ne.symm hfield]

/-- **What a builder holds after setter calls**: what the last arguments that its setters took are
read as, or what it held before.  The induction is on the calls, from the first to the last. -/
theorem exists_collected_of_calling [Stack] (scheme : Scheme PrivateKey)
    {given : Builder.Field → Option Value} {b : Builder}
    (hb : s.builder name = .ok (number, b)) (hgiven : b.Collected given)
    (calls : List Builder.Call) :
    ∃ c, (s.after scheme (calls.map (calling name))).builder name = .ok (number, c) ∧
      c.Collected fun field =>
        (lastGiven calls (run scheme s (calls.map (calling name))) field).or (given field) := by
  induction calls generalizing s b given with
  | nil => exact ⟨b, hb, hgiven⟩
  | cons call rest ih =>
      obtain ⟨c, hc, hcollected⟩ := exists_collected_of_step scheme hb hgiven call
      obtain ⟨d, hd, hlast⟩ := ih hc hcollected
      refine ⟨d, hd, ?_⟩
      simpa only [List.map_cons, run, lastGiven_cons, Option.or_assoc] using hlast

/-! ### Building in a session -/

/-- The step that builds a transaction and raises a fault. -/
def building (name : String) (keep : Option String) : Step :=
  { command := .onBuilder .build, target := some name, keep }

/-- The step that builds a transaction and records a fault that has a kind. -/
def finalizing (name : String) (keep : Option String) : Step :=
  { command := .onBuilder .finalize, target := some name, keep }

/-- The step that creates a transaction from named values.  It does not need the thing that the
other name stands for. -/
def creatingFrom (name : String) (fields : List (String × Value)) (keep : Option String) : Step :=
  { command := .create (fields.map fun (field, x) => (field, .value x)), target := some name, keep }

theorem resolveFields_values [Stack] (s : Session) (fields : List (String × Value)) :
    s.resolveFields (fields.map fun (field, x) => (field, .value x)) = .ok fields := by
  induction fields with
  | nil => rfl
  | cons field rest ih =>
      rw [resolveFields] at ih ⊢
      rw [List.map_cons, List.mapM_cons, ih]
      rfl

/-- What a step answers that makes a transaction, or fails. -/
theorem result_transaction (s : Session) (journal : Transaction → List Event)
    (result : Except Fault Transaction) :
    (Effect.transaction s journal result).result.map Prod.fst = result.map .snapshot := by
  cases result <;> rfl

/-- What a step answers that records the outcome of making a transaction. -/
theorem result_outcome (s : Session) (journal : Transaction → List Event)
    (result : Except Fault Transaction) :
    (Effect.outcome s journal result).result.map Prod.fst = (capture result).map .outcome := by
  rw [Effect.outcome]
  cases capture result with
  | error fault => rfl
  | ok o => cases o <;> rfl

/-- **An outcome is recorded** exactly if it is a transaction or a fault that has a kind. -/
theorem capture_map_outcome_iff {result : Except Fault Transaction} :
    (∀ t, (capture result).map Answer.outcome = .ok (.outcome (.ok t)) ↔
      result.map Answer.snapshot = .ok (.snapshot t)) ∧
    (∀ fault, (capture result).map Answer.outcome = .ok (.outcome (.error fault)) ↔
      result.map Answer.snapshot = .error fault ∧ fault.kind?.isSome = true) ∧
    ∀ fault, (capture result).map Answer.outcome = .error fault ↔
      result.map Answer.snapshot = .error fault ∧ fault.kind? = none := by
  cases result with
  | ok t => simp [capture, Except.map]
  | error fault =>
      cases hkind : fault.kind? with
      | none =>
          -- raised again
          have hcapture : capture (.error fault : Except Fault Transaction) = .error fault := by
            simp [capture, hkind]
          rw [hcapture]
          refine ⟨fun t => ⟨nofun, nofun⟩, fun other => ⟨nofun, ?_⟩,
            fun other => ⟨?_, And.left⟩⟩
          · rintro ⟨⟨⟩, hsome⟩
            rw [hkind] at hsome
            cases hsome
          · rintro ⟨⟩
            exact ⟨rfl, hkind⟩
      | some kind =>
          -- recorded
          have hcapture :
              capture (.error fault : Except Fault Transaction) = .ok (.error fault) := by
            simp [capture, hkind]
          rw [hcapture]
          refine ⟨fun t => ⟨nofun, nofun⟩, fun other => ⟨?_, ?_⟩,
            fun other => ⟨nofun, ?_⟩⟩
          · rintro ⟨⟩
            exact ⟨rfl, by rw [hkind]; rfl⟩
          · rintro ⟨⟨⟩, _⟩
            rfl
          · rintro ⟨⟨⟩, hnone⟩
            cases hkind.symm.trans hnone

section Steps

variable [Stack] {b : Builder} (hb : s.builder name = .ok (number, b)) (keep : Option String)

include hb

theorem perform_building : perform scheme s name (.onBuilder .build) =
    Effect.transaction s Event.ofCreated (b.build s.setting) := by
  rw [perform, hb]
  rfl

theorem perform_finalizing : perform scheme s name (.onBuilder .finalize) =
    Effect.outcome s Event.ofCreated (b.build s.setting) := by
  rw [perform, hb]
  rfl

theorem result_building : (s.step scheme (building name keep)).1.result =
    (b.build s.setting).map .snapshot := by
  rw [step, building, Option.getD_some, perform_building hb, result_transaction]

theorem session_building {fault : Fault} (h : b.build s.setting = .error fault) :
    (s.step scheme (building name keep)).2 = s := by
  rw [step, building, Option.getD_some, perform_building hb, h]
  rfl

theorem result_finalizing : (s.step scheme (finalizing name keep)).1.result =
    (capture (b.build s.setting)).map .outcome := by
  rw [step, finalizing, Option.getD_some, perform_finalizing hb, result_outcome]

/-- **Building and creating from named values are the same step**, if they make the same. -/
theorem step_building {fields : List (String × Value)}
    (h : b.build s.setting = Arguments.ofFields fields >>= Transaction.create s.setting) :
    s.step scheme (building name keep) = s.step scheme (creatingFrom name fields keep) := by
  have hcreating : perform scheme s name (creatingFrom name fields keep).command =
      Effect.transaction s Event.ofCreated (b.build s.setting) := by
    rw [creatingFrom, perform, resolveFields_values, h]
    rfl
  rw [step, step, building, creatingFrom, Option.getD_some, perform_building hb]
  rw [creatingFrom] at hcreating
  simp only [hcreating]

end Steps

/-- **A builder after any setter calls.**  A call that is not answered changes nothing.  What the
builder builds is what is created from the last arguments that its setters took, under their names:
the steps have the same reply and leave the same session; a recipient or a value that was never
taken is missing, in this order.  Finalizing records what building answers, or the fault that it
fails with if that has a kind; if it has none, then what was given for the signatures has no length
or a part that cannot be printed, or there is no policy.  Creating from the texts that the builder
holds is the same again. -/
theorem build_agrees [Stack] (scheme : Scheme PrivateKey) {later : Session}
    (calls : List Builder.Call) {given : Builder.Field → Option Value}
    (hnew : s.builder name = .ok (number, {}))
    (hlater : s.after scheme (calls.map (calling name)) = later)
    (hgiven : lastGiven calls (run scheme s (calls.map (calling name))) = given) :
    (∀ (s' : Session) (call : Builder.Call) (fault : Fault),
      (s'.step scheme (calling name call)).1.result = .error fault →
      (s'.step scheme (calling name call)).2 = s') ∧
    (∀ keep : Option String,
      (given .recipient = none →
        (later.step scheme (building name keep)).1.result = .error (.missing "to") ∧
        (later.step scheme (building name keep)).2 = later) ∧
      (given .recipient ≠ none → given .value = none →
        (later.step scheme (building name keep)).1.result = .error (.missing "value") ∧
        (later.step scheme (building name keep)).2 = later) ∧
      (given .recipient ≠ none → given .value ≠ none →
        later.step scheme (building name keep) =
          later.step scheme (creatingFrom name (Builder.named given) keep)) ∧
      (∀ t, (later.step scheme (finalizing name keep)).1.result = .ok (.outcome (.ok t)) ↔
        (later.step scheme (building name keep)).1.result = .ok (.snapshot t)) ∧
      (∀ fault,
        (later.step scheme (finalizing name keep)).1.result = .ok (.outcome (.error fault)) ↔
          (later.step scheme (building name keep)).1.result = .error fault ∧
            fault.kind?.isSome = true) ∧
      (∀ fault, (later.step scheme (finalizing name keep)).1.result = .error fault ↔
        (later.step scheme (building name keep)).1.result = .error fault ∧ fault.kind? = none) ∧
      ∀ fault, (later.step scheme (building name keep)).1.result = .error fault →
        fault.kind? = none →
        (∀ n, ((given .signatures).getD (.tuple [])).length ≠ .ok n) ∨
        ((given .signatures).getD (.tuple [])).PartUnprinted fault ∨
        ((given .policy).getD .none = .none ∧
          ∃ why, Policy.ofSetting later.setting = .error why)) ∧
    ∃ b, later.builder name = .ok (number, b) ∧
      ∀ recipient value, b.recipient = some recipient → b.value = some value →
        ∀ setting, b.build setting = Transaction.create setting (b.arguments recipient value) := by
  obtain ⟨b, hb, hcollected⟩ :=
    exists_collected_of_calling scheme hnew Builder.collected_new calls
  simp only [Option.or_none, hgiven] at hcollected
  rw [hlater] at hb
  have hbuild := Builder.build_of_collected hcollected later.setting
  refine ⟨fun s' call fault h => session_of_calling_error h, fun keep => ?_, b, hb,
    fun recipient value hrecipient hvalue setting =>
      Builder.build_eq_create hrecipient hvalue setting⟩
  refine ⟨?_, ?_, ?_, ?_, ?_, ?_, ?_⟩
  · intro hrecipient
    rw [Builder.createGiven, hrecipient] at hbuild
    exact ⟨by rw [result_building hb, hbuild]; rfl, session_building hb keep hbuild⟩
  · intro hrecipient hvalue
    obtain ⟨x, hx⟩ := Option.ne_none_iff_exists'.1 hrecipient
    rw [Builder.createGiven, hx, hvalue] at hbuild
    exact ⟨by rw [result_building hb, hbuild]; rfl, session_building hb keep hbuild⟩
  · intro hrecipient hvalue
    obtain ⟨x, hx⟩ := Option.ne_none_iff_exists'.1 hrecipient
    obtain ⟨y, hy⟩ := Option.ne_none_iff_exists'.1 hvalue
    rw [Builder.createGiven, hx, hy] at hbuild
    exact step_building hb keep hbuild
  · rw [result_building hb, result_finalizing hb]
    exact capture_map_outcome_iff.1
  · rw [result_building hb, result_finalizing hb]
    exact capture_map_outcome_iff.2.1
  · rw [result_building hb, result_finalizing hb]
    exact capture_map_outcome_iff.2.2
  · intro fault h hkind
    rw [← hcollected.signatures]
    rw [result_building hb] at h
    have hbuilt : b.build later.setting = .error fault := by
      cases hresult : b.build later.setting with
      | error other =>
          rw [hresult] at h
          cases h
          rfl
      | ok t =>
          rw [hresult] at h
          cases h
    refine (Builder.cause_of_build hbuilt hkind).imp_right (Or.imp_right ?_)
    rintro ⟨hopen, hsetting⟩
    have hvalue := Policy.ofValue_eq_ok_iff.1 hcollected.policy
    rw [hopen] at hvalue
    exact ⟨hvalue, hsetting⟩

/-- A session with a new builder. -/
def builderSession : Session := { things := [.builder {}], names := [("b", 0)] }

/-- Calls of setters, two of which are not answered. -/
def transferCalls : List Builder.Call :=
  [⟨.recipient, .bytes (List.replicate 20 0x35), nofun⟩, ⟨.value, .text "0X1", nofun⟩,
    ⟨.value, .int (-1), nofun⟩, ⟨.value, .text "2", nofun⟩, ⟨.value, .none, nofun⟩]

open scoped Stack.Usual

/-- The last value that is taken is the one that counts. -/
theorem build_agrees_transferCalls :
    builderSession.builder "b" = .ok (0, {}) ∧
    ∃ later given, builderSession.after .secp256k1 (transferCalls.map (calling "b")) = later ∧
      lastGiven transferCalls (run .secp256k1 builderSession (transferCalls.map (calling "b"))) =
        given ∧
      later.step .secp256k1 (building "b" (some "t")) =
        later.step .secp256k1 (creatingFrom "b"
          [("to", .bytes (List.replicate 20 0x35)), ("value", .text "2")] (some "t")) := by
  have hnew : builderSession.builder "b" = .ok (0, {}) := rfl
  refine ⟨hnew, _, _, rfl, rfl, ?_⟩
  obtain ⟨_, hbuild, _⟩ := build_agrees .secp256k1 transferCalls hnew rfl rfl
  obtain ⟨_, _, hcreate, _⟩ := hbuild (some "t")
  exact hcreate nofun nofun

/-- What a builder holds after it was given a recipient, a value, and a list of one integer that has
too many digits where the signatures belong. -/
def longPartBuilder : Builder where
  recipient := some (some ⟨.lower, Hex.ofBytes (List.replicate 20 0x35), rfl⟩)
  value := some ⟨.lower, [Hex.lastDigit 1]⟩
  signatures := .list [.int Decimal.leastLong]

/-- The calls of its setters. -/
def longPartCalls : List Builder.Call :=
  [⟨.recipient, .bytes (List.replicate 20 0x35), nofun⟩, ⟨.value, .text "0x1", nofun⟩,
    ⟨.signatures, .list [.int Decimal.leastLong], nofun⟩]

/-- **A fault that is not recorded**, though the signatures have a length and the setting gives a
policy: the one part that is given is no signature, but there are no words to say so. -/
theorem finalize_longPart :
    (builderSession.after .secp256k1 (longPartCalls.map (calling "b"))).builder "b" =
        .ok (0, longPartBuilder) ∧
      ((builderSession.after .secp256k1 (longPartCalls.map (calling "b"))).step .secp256k1
        (finalizing "b" none)).1.result = .error .tooManyDigits ∧
      longPartBuilder.signatures.length = .ok 1 ∧
      Policy.ofSetting builderSession.setting = .ok .replaceEmpty := by
  have hheld : (builderSession.after .secp256k1 (longPartCalls.map (calling "b"))).builder "b" =
      .ok (0, longPartBuilder) := rfl
  have hread : Signature.readAll longPartBuilder.signatures = .error .tooManyDigits := by
    rw [longPartBuilder, Signature.readAll_eq]
    simp only [Value.offered, Value.parts, Result.ok_bind, List.mapM_cons,
      Signature.read_of_long Decimal.not_writable_leastLong, Result.error_bind]
  have hbuild : longPartBuilder.build none = .error .tooManyDigits := by
    have hattach : ∀ t : Transaction, t.withSignatures longPartBuilder.signatures =
        .error .tooManyDigits := fun t => by
      have hlength : longPartBuilder.signatures.length = .ok 1 := rfl
      rw [Transaction.withSignatures, hlength, Result.ok_bind, if_neg Nat.one_ne_zero,
        Transaction.attach_of_unreadable hread, Result.error_bind]
    exact Result.bind_eq_error.2 (.inr ⟨.replaceEmpty, rfl, hattach _⟩)
  refine ⟨hheld, ?_, rfl, rfl⟩
  rw [result_finalizing hheld]
  exact congrArg (fun made => (capture made).map Answer.outcome) hbuild

end Session

end PlainTx
