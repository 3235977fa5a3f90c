/-
**Recovery ids.**

The component `v` of a signature says in which scheme it was made and which of two points its nonce
is.  The older scheme commits to no chain and uses 27 and 28.  The newer one uses `35 + 2 * c` and
`36 + 2 * c` for the chain `c`.  No other number belongs to a scheme.

Main definitions:

* `PlainTx.RecoveryId.ofChain` — the recovery id for a chain and a parity;
* `PlainTx.RecoveryId.commits`, `PlainTx.RecoveryId.chain?` — whether a recovery id commits to a
  chain, and to which;
* `PlainTx.RecoveryId.parity?` — the parity of the nonce point.

Main results:

* `PlainTx.RecoveryId.chain?_ofChain`, `PlainTx.RecoveryId.parity?_ofChain` — the recovery id for a
  chain and a parity has both.
-/

import PlainTx.Fault

set_option relaxedAutoImplicit false
set_option autoImplicit false

namespace PlainTx.RecoveryId

/-- The recovery id for a chain and the parity of the nonce point. -/
def ofChain (chain parity : Nat) : Nat := parity + chain * 2 + Format.chainOffset

/-- Whether the recovery id commits to a chain. -/
def commits (v : Nat) : Bool := decide (Format.chainOffset ≤ v)

/-- The chain the recovery id commits to. -/
def chain? (v : Nat) : Option Nat :=
  if commits v then some ((v - Format.chainOffset) / 2) else none

/-- The parity of the nonce point, if the recovery id belongs to a scheme. -/
def parity? (v : Nat) : Option Nat :=
  if commits v then some ((v - Format.chainOffset) % 2)
  else if v = Format.plainOffset ∨ v = Format.plainOffset + 1 then some (v - Format.plainOffset)
  else none

theorem commits_ofChain (chain parity : Nat) : commits (ofChain chain parity) = true :=
  decide_eq_true (Nat.le_add_left _ _)

theorem ofChain_sub (chain parity : Nat) :
    ofChain chain parity - Format.chainOffset = parity + chain * 2 :=
  Nat.add_sub_cancel _ _

theorem chain?_ofChain (chain parity : Nat) (h : parity < 2) :
    chain? (ofChain chain parity) = some chain := by
  simp only [chain?, commits_ofChain, if_true, ofChain_sub, Option.some.injEq]
  omega

theorem parity?_ofChain (chain parity : Nat) (h : parity < 2) :
    parity? (ofChain chain parity) = some parity := by
  simp only [parity?, commits_ofChain, if_true, ofChain_sub, Option.some.injEq]
  omega

/-! ### Recovery ids as untyped values

The same three questions may be asked of any number, which need not be an integer. -/

/-- Whether a floating-point number commits to a chain. -/
def commitsReal (x : Float) : Bool := decide (Float.ofNat Format.chainOffset ≤ x)

/-- The quotient and the remainder by two of what a floating-point number exceeds the start of the
newer scheme by. -/
def halveReal (x : Float) : Float × Float := Decimal.halve (x - Float.ofNat Format.chainOffset)

/-- The parity a floating-point number stands for, if it belongs to a scheme. -/
def parityReal? (x : Float) : Option Float :=
  let start := Float.ofNat Format.plainOffset
  if commitsReal x then some (halveReal x).2
  else if x == start || x == start + 1 then some (x - start)
  else none

/-- Whether a number commits to a chain. -/
def commitsValue : Value → Except Fault Bool
  | .real x => .ok (commitsReal x)
  | x => match x.int? with
    | some z => .ok (commits z.toNat)
    | none => .error .wrongType

/-- The chain a number commits to, or no value. -/
def chainValue : Value → Except Fault Value
  | .real x => .ok (if commitsReal x then .real (halveReal x).1 else .none)
  | x => match x.int? with
    | some z => .ok (((chain? z.toNat).map fun n => Value.int n).getD .none)
    | none => .error .wrongType

/-- The parity a number stands for, if there is one. -/
def parityValue? : Value → Except Fault (Option Value)
  | .real x => .ok ((parityReal? x).map .real)
  | x => match x.int? with
    | some z => .ok ((parity? z.toNat).map fun n => .int n)
    | none => .error .wrongType

/-- The parity a number stands for. -/
def parityValue [Stack] (x : Value) : Except Fault Value := do
  match ← parityValue? x with
  | some parity => .ok parity
  | none => .error (.showing x (.unsupportedRecoveryId x))

end PlainTx.RecoveryId
