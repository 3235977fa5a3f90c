/-
**What a slot takes.**

A slot is available while it holds nothing, or a placeholder that its policy lets go.  Whatever is
offered to a slot that is not available is refused with one and the same fault, once all of its
parts have been read.

Main definitions:

* `PlainTx.Transaction.holding` — the transaction with a signature in its slot.

Main results:

* `PlainTx.Slot.available_iff` — when a slot is available;
* `PlainTx.Slot.fill_eq_ok_iff` — when a slot is filled;
* `PlainTx.Transaction.attach_signature` — **an available slot takes any signature**;
* `PlainTx.Transaction.attach_eq_ok_iff` — what is attached;
* `PlainTx.Transaction.attach_of_several` — but no two of them;
* `PlainTx.Transaction.attach_of_occupied` — **a slot that is not available takes none**.
-/

import PlainTx.Proofs.Result
import PlainTx.Transaction.Basic

set_option relaxedAutoImplicit false
set_option autoImplicit false

namespace PlainTx

theorem Policy.allowsReplacing_iff {p : Policy} {held : Signature} :
    p.allowsReplacing held = true ↔ p = .replaceEmpty ∧ held.numbers = (1, 0, 0) := by
  simp [allowsReplacing, Signature.isPlaceholder]

/-- A list of signatures is read as what it is. -/
theorem Signature.readAll_list [Stack] (sigs : List Signature) :
    readAll (.list (sigs.map .signature)) = .ok sigs := by
  rw [readAll, Value.parts, Result.ok_bind]
  · induction sigs with
    | nil => rfl
    | cons sig rest ih =>
        rw [List.map_cons, List.mapM_cons, ih]
        rfl
  · intro sig h
    cases h

namespace Slot

/-- A slot is available exactly if it holds nothing but a placeholder that may be replaced. -/
theorem available_iff {slot : Slot} :
    slot.available = true ↔
      ∀ held, slot.signature = some held →
        slot.policy = .replaceEmpty ∧ held.numbers = (1, 0, 0) := by
  simp only [available, Option.all_eq_true, Policy.allowsReplacing_iff]

theorem check_of_available {slot : Slot} (h : slot.available = true) : slot.check = .ok () :=
  if_pos h

theorem check_of_occupied {slot : Slot} (h : slot.available = false) :
    slot.check = .error (.occupied slot.owner) :=
  if_neg (by simp [h])

/-- **A slot is filled exactly if it is available**, and then nothing but its signature changes. -/
theorem fill_eq_ok_iff {slot later : Slot} {sig : Signature} {replaced : Option Signature} :
    slot.fill sig = .ok (later, replaced) ↔
      slot.available = true ∧ later = { slot with signature := some sig } ∧
        replaced = slot.signature := by
  cases h : slot.available with
  | true =>
      simp only [fill, check_of_available h, Result.ok_bind, Result.pure_eq_ok, Except.ok.injEq,
        Prod.mk.injEq, true_and]
      exact and_congr eq_comm eq_comm
  | false => simp [fill, check_of_occupied h]

end Slot

namespace Transaction

/-- The transaction with a signature in its slot. -/
def holding (t : Transaction) (sig : Signature) : Transaction :=
  { t with slot := { t.slot with signature := some sig } }

@[simp] theorem holding_signature? (t : Transaction) (sig : Signature) :
    (t.holding sig).signature? = some sig := rfl

variable [Stack]

/-- An available slot takes the one signature that is offered. -/
theorem attach_of_available {t : Transaction} (h : t.slot.available = true) {x : Value}
    {sig : Signature} (hx : Signature.readAll x = .ok [sig]) :
    t.attach x = .ok (t.holding sig, t.signature?) := by
  simp only [attach, candidate, Slot.fill, hx, Slot.check_of_available h, Result.ok_bind,
    Result.pure_eq_ok]
  rfl

/-- **An available slot takes any signature.** -/
theorem attach_signature {t : Transaction} (h : t.slot.available = true) (sig : Signature) :
    t.attach (.signature sig) = .ok (t.holding sig, t.signature?) :=
  attach_of_available h rfl

/-- An available slot takes one signature only. -/
theorem attach_of_several {t : Transaction} (h : t.slot.available = true) {x : Value}
    {sigs : List Signature} (hx : Signature.readAll x = .ok sigs) (hlength : sigs.length ≠ 1) :
    t.attach x = .error (.notOneSignature sigs.length) := by
  simp only [attach, candidate, hx, Slot.check_of_available h, Result.ok_bind]
  match sigs with
  | [] => rfl
  | [_] => exact absurd rfl hlength
  | _ :: _ :: _ => rfl

/-- What cannot be read is refused before the slot is looked at. -/
theorem attach_of_unreadable {t : Transaction} {x : Value} {fault : Fault}
    (hx : Signature.readAll x = .error fault) : t.attach x = .error fault := by
  simp only [attach, candidate, hx, Result.error_bind]

/-- **What is attached** is the one signature of the value, to a slot that is available. -/
theorem attach_eq_ok_iff {t u : Transaction} {x : Value} {replaced : Option Signature} :
    t.attach x = .ok (u, replaced) ↔
      t.slot.available = true ∧ replaced = t.signature? ∧
        ∃ sig, Signature.readAll x = .ok [sig] ∧ u = t.holding sig := by
  constructor
  · intro h
    simp only [attach, candidate, Result.bind_eq_ok] at h
    obtain ⟨sig, ⟨sigs, hsigs, _, _, hone⟩, ⟨slot, held⟩, hfill, h⟩ := h
    obtain ⟨havailable, rfl, rfl⟩ := Slot.fill_eq_ok_iff.1 hfill
    cases h
    split at hone
    · cases hone
      exact ⟨havailable, rfl, sig, hsigs, rfl⟩
    · cases hone
  · rintro ⟨havailable, rfl, sig, hsig, rfl⟩
    exact attach_of_available havailable hsig

/-- Whatever is attached, the slot was available, and nothing but its signature changes. -/
theorem exists_holding_of_attach {t u : Transaction} {x : Value} {replaced : Option Signature}
    (h : t.attach x = .ok (u, replaced)) :
    t.slot.available = true ∧ replaced = t.signature? ∧ ∃ sig, u = t.holding sig := by
  obtain ⟨havailable, hreplaced, sig, _, hu⟩ := attach_eq_ok_iff.1 h
  exact ⟨havailable, hreplaced, sig, hu⟩

/-- **A slot that is not available takes no signatures**, one or many. -/
theorem attach_of_occupied {t : Transaction} (h : t.slot.available = false) {x : Value}
    {sigs : List Signature} (hx : Signature.readAll x = .ok sigs) :
    t.attach x = .error (.occupied t.slot.owner) := by
  simp only [attach, candidate, hx, Slot.check_of_occupied h, Result.ok_bind, Result.error_bind]

end Transaction

end PlainTx
