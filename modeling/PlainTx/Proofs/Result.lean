/-
**Results of steps in a row.**

Readers and writers are chains of steps, each of which may fail.  This module says, once for all of
them, what it means that a chain, or a step whose fault is renamed, succeeds.

Main results:

* `PlainTx.Result.bind_eq_ok` — a chain succeeds exactly when its first step and the rest do;
* `PlainTx.Result.mapError_eq_ok` — renaming the fault of a step does not change its success;
* `PlainTx.Result.mem_of_mapM`, `PlainTx.Result.length_of_mapM`, `PlainTx.Result.exists_mapM_iff` —
  one step for each item of a list.
-/

set_option relaxedAutoImplicit false
set_option autoImplicit false

namespace PlainTx.Result

variable {ε ε' α β ι : Type}

@[simp] theorem ok_bind (a : α) (f : α → Except ε β) : (Except.ok a >>= f) = f a := rfl

@[simp] theorem error_bind (e : ε) (f : α → Except ε β) :
    (Except.error e >>= f) = (.error e : Except ε β) := rfl

@[simp] theorem pure_eq_ok (a : α) : (pure a : Except ε α) = .ok a := rfl

/-- **A chain succeeds exactly when its first step and the rest do.** -/
theorem bind_eq_ok {x : Except ε α} {f : α → Except ε β} {b : β} :
    (x >>= f) = .ok b ↔ ∃ a, x = .ok a ∧ f a = .ok b := by
  constructor
  · intro h
    cases x with
    | error e => cases h
    | ok a => exact ⟨a, rfl, h⟩
  · rintro ⟨a, rfl, h⟩
    exact h

/-- A step has one result. -/
theorem eq_of_ok {f : ι → Except ε α} {i j : ι} {a b : α} (ha : f i = .ok a) (hb : f j = .ok b)
    (h : i = j) : a = b := by
  subst h
  exact Except.ok.inj (ha.symm.trans hb)

/-- A chain fails with the fault of its first step or with that of the rest. -/
theorem bind_eq_error {x : Except ε α} {f : α → Except ε β} {e : ε} :
    (x >>= f) = .error e ↔ x = .error e ∨ ∃ a, x = .ok a ∧ f a = .error e := by
  cases x with
  | error e' => simp
  | ok a => simp

/-- Changing the result of a step does not change its success. -/
theorem map_eq_ok {x : Except ε α} {f : α → β} {b : β} :
    x.map f = .ok b ↔ ∃ a, x = .ok a ∧ f a = b := by
  cases x with
  | error e =>
      constructor
      · intro h; cases h
      · rintro ⟨_, h, _⟩; cases h
  | ok a =>
      constructor
      · intro h; cases h; exact ⟨a, rfl, rfl⟩
      · rintro ⟨_, h, rfl⟩; cases h; rfl

@[simp] theorem mapError_ok (f : ε → ε') (a : α) :
    (Except.ok a : Except ε α).mapError f = .ok a := rfl

/-- Renaming the fault of a step does not change its success. -/
theorem mapError_eq_ok {x : Except ε α} {f : ε → ε'} {a : α} :
    x.mapError f = .ok a ↔ x = .ok a := by
  cases x with
  | error e =>
      constructor
      · intro h; cases h
      · intro h; cases h
  | ok b =>
      constructor
      · intro h; cases h; rfl
      · intro h; cases h; rfl

theorem mapError_eq_error {x : Except ε α} {f : ε → ε'} {e : ε'} :
    x.mapError f = .error e ↔ ∃ e', x = .error e' ∧ f e' = e := by
  cases x with
  | error e' =>
      constructor
      · intro h; cases h; exact ⟨e', rfl, rfl⟩
      · rintro ⟨_, h, rfl⟩; cases h; rfl
  | ok a =>
      constructor
      · intro h; cases h
      · rintro ⟨_, h, _⟩; cases h

/-- The results of one step for each item of a list. -/
theorem mem_of_mapM {f : α → Except ε β} {xs : List α} {ys : List β} (h : xs.mapM f = .ok ys)
    (y : β) : y ∈ ys ↔ ∃ x ∈ xs, f x = .ok y := by
  induction xs generalizing ys with
  | nil =>
      cases h
      simp
  | cons x rest ih =>
      rw [List.mapM_cons] at h
      obtain ⟨first, hfirst, h⟩ := bind_eq_ok.1 h
      obtain ⟨others, hothers, h⟩ := bind_eq_ok.1 h
      cases h
      simp [ih hothers, hfirst, eq_comm]

/-- There are as many results as items. -/
theorem length_of_mapM {f : α → Except ε β} {xs : List α} {ys : List β} (h : xs.mapM f = .ok ys) :
    ys.length = xs.length := by
  induction xs generalizing ys with
  | nil =>
      cases h
      rfl
  | cons x rest ih =>
      rw [List.mapM_cons] at h
      obtain ⟨first, _, h⟩ := bind_eq_ok.1 h
      obtain ⟨others, hothers, h⟩ := bind_eq_ok.1 h
      cases h
      rw [List.length_cons, List.length_cons, ih hothers]

/-- **One step for each item of a list succeeds exactly when each of them does.** -/
theorem exists_mapM_iff {f : α → Except ε β} {xs : List α} :
    (∃ ys, xs.mapM f = .ok ys) ↔ ∀ x ∈ xs, ∃ y, f x = .ok y := by
  induction xs with
  | nil => simp
  | cons x rest ih =>
      rw [List.forall_mem_cons, ← ih]
      simp only [List.mapM_cons, bind_eq_ok, pure_eq_ok, Except.ok.injEq]
      constructor
      · rintro ⟨_, first, hfirst, others, hothers, _⟩
        exact ⟨⟨first, hfirst⟩, others, hothers⟩
      · rintro ⟨⟨first, hfirst⟩, others, hothers⟩
        exact ⟨_, first, hfirst, others, hothers, rfl⟩

end PlainTx.Result
