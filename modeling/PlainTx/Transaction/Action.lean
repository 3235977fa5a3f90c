/-
**Actions on a transaction.**

An action works on one transaction.  It may fill the slot of the transaction, it keeps a journal of
what it did, and it may fail; what it wrote and journalled before it failed stays.

Main definitions:

* `PlainTx.Event` — an entry of the journal, with its level and its words;
* `PlainTx.Action` — an action, as a function from a transaction to what it leaves behind;
* `PlainTx.Action.bind` and the instance `Monad PlainTx.Action` — one action after another.

Main results:

* `PlainTx.Action.bind_of_ok`, `PlainTx.Action.bind_of_error` — what two actions in a row do.
-/

import PlainTx.Transaction.Comparison

set_option relaxedAutoImplicit false
set_option autoImplicit false

namespace PlainTx

/-! ### The journal -/

/-- An entry of the journal, with the transaction as it was at the time. -/
inductive Event where
  | appended (t : Transaction)
  | replaced (t : Transaction)
  | signingForm (t : Transaction) (form : Bytes)
  | signedForm (t : Transaction) (form : Bytes)
  | decoded (t : Transaction)
  | differs (difference : Difference) (t u : Transaction)

namespace Event

/-- The level of an entry: changes of a slot are told apart from the rest. -/
def level : Event → String
  | .appended _ => "DEBUG"
  | .replaced _ => "DEBUG"
  | _ => "DEBUG2"

/-- The words of an entry. -/
def words : Event → String
  | .appended t => "Appended signature to " ++ t.shown
  | .replaced t => "Replaced empty signature of " ++ t.shown
  | .signingForm t form => "Signing payload of " ++ t.shown ++ ": " ++ Hex.text form
  | .signedForm t form => "Signed encoding of " ++ t.shown ++ ": " ++ Hex.text form
  | .decoded t => "Decoded " ++ t.shown
  | .differs difference t u => difference.report t.shown u.shown

/-- The entry for a signature that took the place of `replaced`. -/
def ofAttach (t : Transaction) (replaced : Option Signature) : Event :=
  if replaced.isSome then .replaced t else .appended t

/-- The entries for a transaction that was made with the signatures it has. -/
def ofCreated (t : Transaction) : List Event :=
  if t.signature?.isSome then [.appended t] else []

/-- The entries for a transaction that was read. -/
def ofDecoded (t : Transaction) : List Event := ofCreated t ++ [.decoded t]

end Event

/-! ### Actions -/

/-- What an action leaves behind: its result, the transaction, and the journal. -/
structure Action.Trace (α : Type) where
  result : Except Fault α
  transaction : Transaction
  journal : List Event := []

/-- A function from a transaction to what is left behind. -/
def Action (α : Type) : Type := Transaction → Action.Trace α

namespace Action

/-- Does nothing and succeeds. -/
def pure {α : Type} (a : α) : Action α := fun t => { result := .ok a, transaction := t }

/-- One action, and then one that may use its result; a failure of the first is the end. -/
def bind {α β : Type} (m : Action α) (f : α → Action β) : Action β := fun t =>
  match m t with
  | ⟨.error fault, t', journal⟩ => ⟨.error fault, t', journal⟩
  | ⟨.ok a, t', journal⟩ =>
    let next := f a t'
    ⟨next.result, next.transaction, journal ++ next.journal⟩

instance : Monad Action where
  pure := Action.pure
  bind := Action.bind

theorem bind_of_ok {α β : Type} {m : Action α} {f : α → Action β} {t : Transaction} {a : α}
    (h : (m t).result = .ok a) :
    Action.bind m f t = ⟨(f a (m t).transaction).result, (f a (m t).transaction).transaction,
      (m t).journal ++ (f a (m t).transaction).journal⟩ := by
  unfold Action.bind
  cases hm : m t with
  | mk result t' journal =>
    rw [hm] at h
    cases h
    rfl

theorem bind_of_error {α β : Type} {m : Action α} {f : α → Action β} {t : Transaction}
    {fault : Fault} (h : (m t).result = .error fault) :
    Action.bind m f t = ⟨.error fault, (m t).transaction, (m t).journal⟩ := by
  unfold Action.bind
  cases hm : m t with
  | mk result t' journal =>
    rw [hm] at h
    cases h
    rfl

/-- The transaction that is worked on. -/
def current : Action Transaction := fun t => { result := .ok t, transaction := t }

/-- Puts another transaction in its place. -/
def put (t : Transaction) : Action Unit := fun _ => { result := .ok (), transaction := t }

/-- Adds entries to the journal. -/
def record (events : List Event) : Action Unit := fun t =>
  { result := .ok (), transaction := t, journal := events }

/-- Takes over a result that was computed apart from the transaction. -/
def ofExcept {α : Type} (result : Except Fault α) : Action α := fun t =>
  { result, transaction := t }

end Action

end PlainTx
