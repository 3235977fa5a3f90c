/-
**Faults that have a kind.**

Most faults have a kind, and these are the ones that an outcome records.  Reading a list of
signatures fails with nothing else, unless one of its items cannot be printed; so when a transaction
is made from fields that are read already, a fault without a kind has one of three causes: what is
given for the signatures has no length, or one of its items cannot be printed, or no policy is
chosen and the setting gives none.

Main definitions:

* `PlainTx.Result.Kinded` — a step fails, if at all, with a fault that has a kind, or with one of
  those that are excepted;
* `PlainTx.Value.PartUnprinted` — the faults that some part of a value cannot be printed.

Main results:

* `PlainTx.Result.Kinded.bind`, `PlainTx.Result.kinded_mapM` — steps one after the other;
* `PlainTx.Signature.kinded_readAll`, `PlainTx.Transaction.kinded_withSignatures` — **signatures**;
* `PlainTx.Transaction.cause_of_assemble`, `PlainTx.Builder.cause_of_build` — **the causes of a
  fault without a kind**.
-/

import PlainTx.Builder
import PlainTx.Proofs.Appending

set_option relaxedAutoImplicit false
set_option autoImplicit false

namespace PlainTx

/-! ### Steps one after the other -/

namespace Result

variable {α β : Type} {excepted : Fault → Prop}

/-- A step fails, if at all, with a fault that has a kind, or with one of those that are
excepted. -/
def Kinded (excepted : Fault → Prop) (x : Except Fault α) : Prop :=
  ∀ fault, x = .error fault → fault.kind?.isSome = true ∨ excepted fault

theorem kinded_ok (a : α) : Kinded excepted (.ok a : Except Fault α) := nofun

theorem kinded_error {fault : Fault} (h : fault.kind?.isSome = true) :
    Kinded excepted (.error fault : Except Fault α) := by
  rintro _ ⟨⟩
  exact .inl h

theorem Kinded.bind {x : Except Fault α} {f : α → Except Fault β} (hx : Kinded excepted x)
    (hf : ∀ a, x = .ok a → Kinded excepted (f a)) : Kinded excepted (x >>= f) := by
  intro fault h
  rcases bind_eq_error.1 h with h | ⟨a, ha, h⟩
  · exact hx fault h
  · exact hf a ha fault h

theorem kinded_mapM {f : α → Except Fault β} {xs : List α}
    (h : ∀ x ∈ xs, Kinded excepted (f x)) : Kinded excepted (xs.mapM f) := by
  induction xs with
  | nil => exact kinded_ok _
  | cons x rest ih =>
      obtain ⟨hx, hrest⟩ := List.forall_mem_cons.1 h
      rw [List.mapM_cons]
      exact hx.bind fun _ _ => (ih hrest).bind fun _ _ => kinded_ok _

end Result

open Result (Kinded kinded_ok kinded_error kinded_mapM)

/-! ### Signatures -/

/-- A part that is no signature has a bad format, unless it cannot be printed. -/
theorem Signature.kinded_read [Stack] (x : Value) : Kinded x.Unprinted (read x) := by
  intro fault h
  rcases (((decides_read x).error_iff fault).1 h).kind? with hkind | hunprinted
  · exact .inl (by rw [hkind]; rfl)
  · exact .inr hunprinted

/-- Some part of a value cannot be printed. -/
def Value.PartUnprinted [Stack] (x : Value) (fault : Fault) : Prop :=
  ∃ parts, x.parts = .ok parts ∧ ∃ part ∈ parts, part.Unprinted fault

/-- A value that has a length has parts. -/
theorem Value.exists_parts_of_length {x : Value} {n : Nat} (h : x.length = .ok n) :
    ∃ parts, x.parts = .ok parts := by
  cases x with
  | none | bool | int | real | policy | entity => cases h
  | _ => exact ⟨_, rfl⟩

theorem Signature.kinded_readAll [Stack] {x : Value} {n : Nat} (h : x.length = .ok n) :
    Kinded x.PartUnprinted (readAll x) := by
  obtain ⟨parts, hparts⟩ := Value.exists_parts_of_length h
  unfold readAll
  split
  · exact kinded_ok _
  · rw [hparts]
    refine kinded_mapM fun part hpart fault hfault => ?_
    exact (kinded_read part fault hfault).imp_right fun hunprinted =>
      ⟨parts, hparts, part, hpart, hunprinted⟩

theorem Slot.kinded_check {excepted : Fault → Prop} (slot : Slot) : Kinded excepted slot.check := by
  rw [check]
  split
  · exact kinded_ok _
  · exact kinded_error rfl

namespace Transaction

/-- **The signatures of a new transaction** are refused with a fault that has a kind, if what is
given for them has a length and its parts can be printed. -/
theorem kinded_withSignatures [Stack] (t : Transaction) {x : Value} {n : Nat}
    (h : x.length = .ok n) : Kinded x.PartUnprinted (t.withSignatures x) := by
  have hcandidate : Kinded x.PartUnprinted (candidate t.slot x) := by
    refine (Signature.kinded_readAll h).bind fun sigs _ => t.slot.kinded_check.bind fun _ _ => ?_
    split
    · exact kinded_ok _
    · exact kinded_error rfl
  have hattach : Kinded x.PartUnprinted (t.attach x) :=
    hcandidate.bind fun sig _ =>
      (t.slot.kinded_check.bind fun _ _ => kinded_ok _).bind fun _ _ => kinded_ok _
  rw [withSignatures, h, Result.ok_bind]
  split
  · exact kinded_ok t
  · exact hattach.bind fun _ _ => kinded_ok _

/-! ### Causes -/

/-- **The causes of a fault without a kind**: what is given for the signatures has no length, or it
has a part that cannot be printed, or no policy is chosen and the setting gives none. -/
theorem cause_of_assemble [Stack] {setting : Option String} {recipient : Address} {value : Quantity}
    {input : Bytes} {common : CommonFields} {policy : Option Policy} {signatures : Value}
    {fault : Fault}
    (h : assemble setting recipient value input common policy signatures = .error fault)
    (hkind : fault.kind? = none) :
    (∀ n, signatures.length ≠ .ok n) ∨ signatures.PartUnprinted fault ∨
      (policy = none ∧ ∃ why, Policy.ofSetting setting = .error why) := by
  rcases Result.bind_eq_error.1 h with hpolicy | ⟨p, _, h⟩
  · -- a policy that is given is chosen
    cases policy with
    | none => exact .inr (.inr ⟨rfl, fault, hpolicy⟩)
    | some p => cases hpolicy
  · by_cases hlength : ∃ n, signatures.length = .ok n
    · obtain ⟨n, hn⟩ := hlength
      rcases kinded_withSignatures _ hn fault h with hsome | hunprinted
      · rw [hkind] at hsome
        cases hsome
      · exact .inr (.inl hunprinted)
    · exact .inl fun n hn => hlength ⟨n, hn⟩

end Transaction

/-- The causes of a fault without a kind in building. -/
theorem Builder.cause_of_build [Stack] {setting : Option String} {b : Builder} {fault : Fault}
    (h : b.build setting = .error fault) (hkind : fault.kind? = none) :
    (∀ n, b.signatures.length ≠ .ok n) ∨ b.signatures.PartUnprinted fault ∨
      (b.policy = none ∧ ∃ why, Policy.ofSetting setting = .error why) := by
  rw [build] at h
  split at h
  · cases h
    cases hkind
  · cases h
    cases hkind
  · cases h
    cases hkind
  · exact Transaction.cause_of_assemble h hkind

end PlainTx
