/-
**How a slot changes over time.**

A slot is filled while it is available, and there is no other change: it is never emptied, a
signature that is no placeholder stays for good, and under the policy that keeps placeholders any
signature does.  Being filled any number of times comes to being filled once, so one relation
describes a step and a whole run.  Every operation on a transaction changes the transaction along
it, whether the operation succeeds or fails.

Main definitions:

* `PlainTx.Slot.Reaches`, `PlainTx.Transaction.Reaches` — what a slot and a transaction can become;
* `PlainTx.Slot.Later`, `PlainTx.Transaction.Later` — what holds of them and of the same ones at a
  later time;
* `PlainTx.Slot.Request`, `PlainTx.Slot.ask`, `PlainTx.Slot.askAll` — requests to a slot;
* `PlainTx.Action.Advances` — an action changes a transaction to what it can become.

Main results:

* `PlainTx.Slot.Reaches.trans` — **a run of changes is one change**;
* `PlainTx.Slot.Reaches.later`, `PlainTx.Transaction.Reaches.later` — what no change affects;
* `PlainTx.Slot.reaches_askAll` — a run of requests to a slot;
* `PlainTx.Action.Advances.bind` — one operation after another;
* `PlainTx.Transaction.append_advances`, `PlainTx.Transaction.sign_advances`,
  `PlainTx.Transaction.combine_advances`, `PlainTx.Transaction.get_advances` — **operations only
  fill the slot**.
-/

import PlainTx.Proofs.Copies

set_option relaxedAutoImplicit false
set_option autoImplicit false

namespace PlainTx

/-! ### Slots -/

namespace Slot

/-- What a slot can become: it stays as it is, or it is filled while it is available. -/
def Reaches (slot later : Slot) : Prop :=
  later = slot ∨ slot.available = true ∧ ∃ sig, later = { slot with signature := some sig }

theorem Reaches.refl (slot : Slot) : slot.Reaches slot := .inl rfl

theorem reaches_of_fill {slot later : Slot} {sig : Signature} {replaced : Option Signature}
    (h : slot.fill sig = .ok (later, replaced)) : slot.Reaches later := by
  obtain ⟨havailable, hlater, _⟩ := fill_eq_ok_iff.1 h
  exact .inr ⟨havailable, sig, hlater⟩

/-- **A run of changes is one change**: the last signature that was filled in is the only one that
is seen. -/
theorem Reaches.trans {slot later last : Slot} (h : slot.Reaches later) (h' : later.Reaches last) :
    slot.Reaches last := by
  rcases h with rfl | ⟨havailable, sig, rfl⟩
  · exact h'
  · rcases h' with rfl | ⟨_, sig', rfl⟩
    · exact .inr ⟨havailable, sig, rfl⟩
    · exact .inr ⟨havailable, sig', rfl⟩

/-- What holds of a slot and of the same slot at a later time. -/
structure Later (slot later : Slot) : Prop where
  policy : later.policy = slot.policy
  count : later.signatures.length ≤ 1
  /-- A slot is not emptied. -/
  kept : slot.signatures.length ≤ later.signatures.length
  /-- Only a placeholder under the policy that lets it go is not there for good. -/
  final : ∀ held, slot.signature = some held → held.numbers ≠ (1, 0, 0) ∨ slot.policy = .reject →
    later.signatures = slot.signatures
  /-- Whatever was replaced was a placeholder. -/
  replaced : ∀ held, slot.signature = some held → later.signatures ≠ slot.signatures →
    held.numbers = (1, 0, 0)

theorem length_signatures_le (slot : Slot) : slot.signatures.length ≤ 1 := by
  rw [signatures]
  cases slot.signature with
  | none => exact Nat.zero_le 1
  | some sig => exact Nat.le_refl 1

/-- What no change affects. -/
theorem Reaches.later {slot later : Slot} (h : slot.Reaches later) : slot.Later later := by
  rcases h with rfl | ⟨havailable, sig, rfl⟩
  · exact ⟨rfl, length_signatures_le _, Nat.le_refl _, fun _ _ _ => rfl,
      fun _ _ h => absurd rfl h⟩
  · have hplaceholder := available_iff.1 havailable
    refine ⟨rfl, length_signatures_le _, length_signatures_le slot, ?_, ?_⟩
    · intro held hheld hfinal
      obtain ⟨hpolicy, hnumbers⟩ := hplaceholder held hheld
      rcases hfinal with hreal | hreject
      · exact absurd hnumbers hreal
      · rw [hpolicy] at hreject
        cases hreject
    · intro held hheld _
      exact (hplaceholder held hheld).2

/-! ### Requests to a slot -/

/-- What can be asked of a slot. -/
inductive Request where
  /-- The slot shall hold the signature. -/
  | fill (sig : Signature)
  /-- Whether the slot can be filled. -/
  | check

/-- The answer to a request, with what was replaced, and the slot afterwards.  A request that is
refused leaves the slot as it was. -/
def ask (slot : Slot) : Request → Except Fault (Option Signature) × Slot
  | .fill sig =>
    match slot.fill sig with
    | .ok (filled, replaced) => (.ok replaced, filled)
    | .error fault => (.error fault, slot)
  | .check => (slot.check.map fun _ => none, slot)

/-- The slot after some requests. -/
def askAll (slot : Slot) (requests : List Request) : Slot :=
  requests.foldl (fun slot x => (slot.ask x).2) slot

theorem askAll_append (slot : Slot) (requests more : List Request) :
    slot.askAll (requests ++ more) = (slot.askAll requests).askAll more :=
  List.foldl_append

theorem reaches_ask (slot : Slot) (x : Request) : slot.Reaches (slot.ask x).2 := by
  cases x with
  | fill sig =>
      rw [ask]
      cases h : slot.fill sig with
      | error fault => exact .refl slot
      | ok filled => exact reaches_of_fill h
  | check => exact .refl slot

theorem reaches_askAll (slot : Slot) (requests : List Request) :
    slot.Reaches (slot.askAll requests) := by
  induction requests generalizing slot with
  | nil => exact .refl slot
  | cons x rest ih => exact (reaches_ask slot x).trans (ih _)

/-- What a request replaces was a placeholder that could be replaced. -/
theorem replaced_of_ask {slot : Slot} {x : Request} {held : Signature}
    (h : (slot.ask x).1 = .ok (some held)) :
    slot.signature = some held ∧ slot.policy = .replaceEmpty ∧ held.numbers = (1, 0, 0) := by
  cases x with
  | fill sig =>
      rw [ask] at h
      cases hfill : slot.fill sig with
      | error fault => rw [hfill] at h; cases h
      | ok filled =>
          obtain ⟨later, replaced⟩ := filled
          rw [hfill] at h
          obtain ⟨havailable, _, hreplaced⟩ := fill_eq_ok_iff.1 hfill
          have hheld : slot.signature = some held := hreplaced.symm.trans (Except.ok.inj h)
          exact ⟨hheld, available_iff.1 havailable held hheld⟩
  | check =>
      rw [ask] at h
      cases hcheck : slot.check with
      | error fault => rw [hcheck] at h; cases h
      | ok u => rw [hcheck] at h; cases h

end Slot

/-! ### Transactions -/

namespace Transaction

/-- What a transaction can become: nothing but its slot changes. -/
def Reaches (t u : Transaction) : Prop := ∃ slot, t.slot.Reaches slot ∧ u = { t with slot }

theorem Reaches.refl (t : Transaction) : t.Reaches t := ⟨t.slot, .refl _, rfl⟩

theorem Reaches.trans {t u w : Transaction} (h : t.Reaches u) (h' : u.Reaches w) :
    t.Reaches w := by
  obtain ⟨slot, hslot, rfl⟩ := h
  obtain ⟨last, hlast, rfl⟩ := h'
  exact ⟨last, hslot.trans hlast, rfl⟩

theorem reaches_holding {t : Transaction} (h : t.slot.available = true) (sig : Signature) :
    t.Reaches (t.holding sig) :=
  ⟨_, .inr ⟨h, sig, rfl⟩, rfl⟩

/-- What holds of a transaction and of the same transaction at a later time. -/
structure Later (t u : Transaction) : Prop where
  recipient : u.recipient = t.recipient
  value : u.value = t.value
  input : u.input = t.input
  common : u.common = t.common
  slot : t.slot.Later u.slot

/-- What no change affects. -/
theorem Reaches.later {t u : Transaction} (h : t.Reaches u) : t.Later u := by
  obtain ⟨slot, hslot, rfl⟩ := h
  exact ⟨rfl, rfl, rfl, rfl, hslot.later⟩

end Transaction

/-! ### Operations -/

namespace Action

variable {α β : Type}

/-- Whether it succeeds or fails, the action changes a transaction to what it can become. -/
def Advances (m : Action α) : Prop := ∀ t : Transaction, t.Reaches (m t).transaction

theorem Observes.advances {m : Action α} {f : Transaction → Except Fault α} (h : m.Observes f) :
    m.Advances := by
  intro t
  rw [h.transaction]
  exact .refl t

/-- **One operation after another**: a failure of the first leaves what the first did. -/
theorem Advances.bind {m : Action α} {n : α → Action β} (hm : m.Advances)
    (hn : ∀ a, (n a).Advances) : (m >>= n).Advances := by
  intro t
  have hbind : (m >>= n) t = Action.bind m n t := rfl
  rw [hbind]
  cases h : (m t).result with
  | error fault => rw [bind_of_error h]; exact hm t
  | ok a => rw [bind_of_ok h]; exact (hm t).trans (hn a _)

theorem pure_advances (a : α) : (pure a : Action α).Advances := (observes_pure a).advances

theorem ofExcept_advances (x : Except Fault α) : (ofExcept x).Advances :=
  (observes_ofExcept x).advances

/-- What is done next may be chosen by looking at the transaction. -/
theorem Advances.of_current {n : Transaction → Action α} (h : ∀ t, (n t).Advances) :
    (current >>= n).Advances :=
  fun t => h t t

end Action

namespace Transaction

open PlainTx.Action (Advances pure_advances ofExcept_advances)

variable [Stack]

/-- **Attaching fills the slot or fails.** -/
theorem append_advances (x : Value) : (append x).Advances := by
  intro t
  cases h : t.attach x with
  | error fault => rw [append_of_error h]; exact .refl t
  | ok attached =>
      obtain ⟨u, replaced⟩ := attached
      obtain ⟨havailable, _, sig, rfl⟩ := exists_holding_of_attach h
      rw [append_of_attach h]
      exact reaches_holding havailable sig

/-- **Signing fills the slot or fails.** -/
theorem sign_advances {Key : Type} (scheme : Scheme Key) (key : Key) :
    (sign scheme key).Advances :=
  Advances.of_current fun t => (ofExcept_advances t.slot.check).bind fun _ =>
    (newSignature_observes scheme key).advances.bind fun sig =>
      (append_advances (.signature sig)).bind fun _ => pure_advances sig

/-- **Combining fills the slot or fails**, or both: what follows attaching may fail as well. -/
theorem combine_advances (detailed : Bool) (raws : Value) : (combine detailed raws).Advances := by
  refine (ofExcept_advances raws.parts).bind fun members =>
    (collectAll_observes detailed [] members).advances.bind fun collected => ?_
  cases collected.isEmpty with
  | true => exact (pure_advances ()).bind fun _ => encode_observes.advances
  | false => exact (append_advances _).bind fun _ => encode_observes.advances

/-- Asking for a property only looks. -/
theorem get_advances (property : Property) : (get property).Advances := by
  intro t
  rw [get_transaction]
  exact .refl t

end Transaction

end PlainTx
