/-
**The first refusal.**

A reader of several things takes them in order and goes no further once it has refused one.  Which
things it takes, and with which faults it refuses the others, is said of each thing by itself; what
that makes of the whole is the same for all readers, and is said here: the reader succeeds exactly
if it takes everything, and otherwise it fails as it does for the first thing that it refuses.

Main definitions:

* `PlainTx.Result.FirstRefused` — the faults with which the first refused thing is refused;
* `PlainTx.Result.Decides` — a step succeeds, and fails, exactly as it is said;
* `PlainTx.Result.DecidesAll` — the same for a step that takes several things.

Main results:

* `PlainTx.Result.firstRefused_iff` — what stands before the first refused thing passes;
* `PlainTx.Result.Decides.of_ok`, `PlainTx.Result.Decides.of_error` — steps whose outcome is known;
* `PlainTx.Result.DecidesAll.bind` — **what two steps in a row take, and what they refuse first**;
* `PlainTx.Result.decidesAll_mapM` — **and one step for each item of a list**.
-/

import PlainTx.Proofs.Result

set_option relaxedAutoImplicit false
set_option autoImplicit false

namespace PlainTx.Result

variable {ε α β ι : Type}

/-! ### One step -/

/-- The step succeeds exactly under a condition, and fails exactly with the given faults. -/
structure Decides (x : Except ε α) (passes : Prop) (refuses : ε → Prop) : Prop where
  ok_iff : (∃ a, x = .ok a) ↔ passes
  error_iff : ∀ e, x = .error e ↔ refuses e

/-- A step that succeeded. -/
theorem Decides.of_ok {a : α} {passes : Prop} {refuses : ε → Prop} (hpasses : passes)
    (hnone : ∀ e, ¬ refuses e) : Decides (.ok a) passes refuses :=
  ⟨⟨fun _ => hpasses, fun _ => ⟨a, rfl⟩⟩, fun e => ⟨nofun, fun h => absurd h (hnone e)⟩⟩

/-- A step that failed. -/
theorem Decides.of_error {e : ε} {passes : Prop} {refuses : ε → Prop} (hpasses : ¬ passes)
    (hrefuses : refuses e) (hunique : ∀ e', refuses e' → e' = e) :
    Decides (.error e : Except ε α) passes refuses := by
  refine ⟨⟨nofun, fun h => absurd h hpasses⟩, fun e' => ⟨?_, fun h => by rw [hunique e' h]⟩⟩
  intro h
  cases h
  exact hrefuses

theorem Decides.congr {x : Except ε α} {passes passes' : Prop} {refuses refuses' : ε → Prop}
    (h : Decides x passes refuses) (hpasses : passes ↔ passes')
    (hrefuses : ∀ e, refuses e ↔ refuses' e) : Decides x passes' refuses' :=
  ⟨h.ok_iff.trans hpasses, fun e => (h.error_iff e).trans (hrefuses e)⟩

section

variable {x : Except ε α} {pass : Prop} {refuse : ε → Prop} {e e' : ε}

/-- What is refused does not pass. -/
theorem Decides.not_passes (h : Decides x pass refuse) (he : refuse e) : ¬ pass := by
  intro hpass
  obtain ⟨a, ha⟩ := h.ok_iff.2 hpass
  cases ha.symm.trans ((h.error_iff e).2 he)

/-- There is one refusal at most. -/
theorem Decides.unique (h : Decides x pass refuse) (he : refuse e) (he' : refuse e') : e = e' :=
  Except.error.inj (((h.error_iff e).2 he).symm.trans ((h.error_iff e').2 he'))

end

/-! ### Several things -/

/-- The faults with which the first of some things that is refused is refused, where the things
before it pass. -/
inductive FirstRefused (passes : ι → Prop) (refuses : ι → ε → Prop) : List ι → ε → Prop where
  | here {i : ι} {rest : List ι} {e : ε} (h : refuses i e) :
      FirstRefused passes refuses (i :: rest) e
  | later {i : ι} {rest : List ι} {e : ε} (hi : passes i)
      (h : FirstRefused passes refuses rest e) : FirstRefused passes refuses (i :: rest) e

variable {passes : ι → Prop} {refuses : ι → ε → Prop}

theorem not_firstRefused_nil {e : ε} : ¬ FirstRefused passes refuses [] e := nofun

theorem firstRefused_cons_iff {i : ι} {rest : List ι} {e : ε} :
    FirstRefused passes refuses (i :: rest) e ↔
      refuses i e ∨ passes i ∧ FirstRefused passes refuses rest e := by
  constructor
  · intro h
    cases h with
    | here h => exact .inl h
    | later hi h => exact .inr ⟨hi, h⟩
  · rintro (h | ⟨hi, h⟩)
    · exact .here h
    · exact .later hi h

/-- What is refused first among more things. -/
theorem firstRefused_append_iff {xs ys : List ι} {e : ε} :
    FirstRefused passes refuses (xs ++ ys) e ↔
      FirstRefused passes refuses xs e ∨
        (∀ i ∈ xs, passes i) ∧ FirstRefused passes refuses ys e := by
  induction xs with
  | nil => simp [not_firstRefused_nil]
  | cons i rest ih =>
      rw [List.cons_append, firstRefused_cons_iff, firstRefused_cons_iff, ih, List.forall_mem_cons,
        and_or_left, or_assoc, and_assoc]

/-- **All things before the first one that is refused pass.** -/
theorem firstRefused_iff {xs : List ι} {e : ε} :
    FirstRefused passes refuses xs e ↔
      ∃ before i after, xs = before ++ i :: after ∧ (∀ j ∈ before, passes j) ∧ refuses i e := by
  constructor
  · intro h
    induction h with
    | @here i rest _ h => exact ⟨[], i, rest, rfl, by simp, h⟩
    | @later i _ _ hi _ ih =>
        obtain ⟨before, j, after, rfl, hbefore, h⟩ := ih
        exact ⟨i :: before, j, after, rfl, List.forall_mem_cons.2 ⟨hi, hbefore⟩, h⟩
  · rintro ⟨before, i, after, rfl, hbefore, h⟩
    exact firstRefused_append_iff.2 (.inr ⟨hbefore, .here h⟩)

theorem FirstRefused.exists_mem {xs : List ι} {e : ε} (h : FirstRefused passes refuses xs e) :
    ∃ i ∈ xs, refuses i e := by
  obtain ⟨before, i, after, rfl, _, h⟩ := firstRefused_iff.1 h
  exact ⟨i, by simp, h⟩

/-- The step succeeds exactly if all things pass, and fails exactly with the faults with which the
first one that is refused is refused. -/
abbrev DecidesAll (x : Except ε α) (passes : ι → Prop) (refuses : ι → ε → Prop)
    (items : List ι) : Prop :=
  Decides x (∀ i ∈ items, passes i) (FirstRefused passes refuses items)

/-- A step that takes nothing. -/
theorem decidesAll_ok (a : α) : DecidesAll (.ok a : Except ε α) passes refuses [] :=
  ⟨by simp, fun e => by simp [not_firstRefused_nil]⟩

/-- A step that takes one thing. -/
theorem Decides.all {x : Except ε α} {i : ι} (h : Decides x (passes i) (refuses i)) :
    DecidesAll x passes refuses [i] :=
  h.congr (by simp) fun e => by simp [firstRefused_cons_iff, not_firstRefused_nil]

/-- **What two steps in a row take, and what they refuse first.** -/
theorem DecidesAll.bind {x : Except ε α} {f : α → Except ε β} {xs ys : List ι}
    (hx : DecidesAll x passes refuses xs)
    (hf : ∀ a, x = .ok a → DecidesAll (f a) passes refuses ys) :
    DecidesAll (x >>= f) passes refuses (xs ++ ys) := by
  have hall : (∀ i ∈ xs ++ ys, passes i) ↔ (∀ i ∈ xs, passes i) ∧ ∀ i ∈ ys, passes i := by
    simp only [List.mem_append, or_imp, forall_and]
  cases h : x with
  | error e =>
      have hrefused := (hx.error_iff e).1 h
      have hsome := hx.not_passes hrefused
      constructor
      · constructor
        · rintro ⟨b, hb⟩
          cases hb
        · intro hpass
          exact absurd (hall.1 hpass).1 hsome
      · intro e'
        rw [firstRefused_append_iff, ← hx.error_iff, h, error_bind,
          or_iff_left fun he => hsome he.1, Except.error.injEq, Except.error.injEq]
  | ok a =>
      have hpass := hx.ok_iff.1 ⟨a, h⟩
      have hnone : ∀ e, ¬ FirstRefused passes refuses xs e := fun e hrefused =>
        hx.not_passes hrefused hpass
      rw [ok_bind]
      refine (hf a h).congr (hall.trans (and_iff_right hpass)).symm fun e => ?_
      rw [firstRefused_append_iff, or_iff_right (hnone e), and_iff_right hpass]

/-- What comes of a step does not change what it takes. -/
theorem DecidesAll.bind_pure {x : Except ε α} {xs : List ι} (hx : DecidesAll x passes refuses xs)
    (f : α → β) : DecidesAll (x >>= fun a => pure (f a)) passes refuses xs := by
  have h : DecidesAll (x >>= fun a => pure (f a)) passes refuses (xs ++ []) :=
    hx.bind fun a _ => decidesAll_ok (f a)
  rwa [List.append_nil] at h

/-- A step that takes one thing, and then others. -/
theorem Decides.cons {x : Except ε α} {f : α → Except ε β} {i : ι} {rest : List ι}
    (hx : Decides x (passes i) (refuses i))
    (hf : ∀ a, x = .ok a → DecidesAll (f a) passes refuses rest) :
    DecidesAll (x >>= f) passes refuses (i :: rest) :=
  DecidesAll.bind hx.all hf

/-- **What one step for each item of a list takes, and what it refuses first.** -/
theorem decidesAll_mapM {f : ι → Except ε α} (h : ∀ i, Decides (f i) (passes i) (refuses i))
    (xs : List ι) : DecidesAll (xs.mapM f) passes refuses xs := by
  induction xs with
  | nil => exact decidesAll_ok []
  | cons i rest ih =>
      rw [List.mapM_cons]
      exact (h i).cons fun a _ => ih.bind_pure (a :: ·)

end PlainTx.Result
