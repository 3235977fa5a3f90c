/-
**Equality of untyped values, and keys.**

Two values are the same when they have the same content.  Numbers are compared by what they are,
whatever their kind, so that a truth value, an integer and a floating-point number may be the same;
an undefined number is not even the same as itself.  Lists are never the same as tuples, and a
signature is the same as the tuple of its components.  Dictionaries are compared without regard to
order.

The keys of a dictionary are told apart by this equality.  A list or a dictionary, whose content may
change, is no key, and neither is a tuple that holds one.

Main definitions:

* `PlainTx.Value.same` — equality of two values;
* `PlainTx.Value.isKey` — whether a value can be a key;
* `PlainTx.Value.enter` — entries with one more.
-/

import PlainTx.Value

set_option relaxedAutoImplicit false
set_option autoImplicit false

namespace PlainTx.Value

/-! ### Equality -/

/-- A finite number as a quotient. -/
def ratio? : Value → Option (Int × Nat)
  | .real x =>
    (Decimal.magnitude? x).map fun (num, den) =>
      (if Decimal.isNegative x then -(num : Int) else num, den)
  | x => x.int?.map fun z => (z, 1)

/-- Whether two values are the same number. -/
def sameNumber (x y : Value) : Bool :=
  match x.ratio?, y.ratio? with
  | some (a, b), some (c, d) => a * d == c * b
  | .none, .none =>
    match x, y with
    | .real x, .real y => x == y
    | _, _ => false
  | _, _ => false

/-- Whether some values are the components of a signature. -/
def areComponents (sig : Signature) : List Value → Bool
  | [.bytes v, .bytes r, .bytes s] => sig == ⟨v, r, s⟩
  | _ => false

mutual

/-- Whether two values are the same. -/
def same : Value → Value → Bool
  | .none, .none => true
  | .text s, .text t => s == t
  | .bytes a, .bytes b => a == b
  | .list xs, .list ys => sameItems xs ys
  | .tuple xs, .tuple ys => sameItems xs ys
  | .signature sig, .signature other => sig == other
  | .signature sig, .tuple ys => areComponents sig ys
  | .tuple xs, .signature sig => areComponents sig xs
  | .dict xs, .dict ys => xs.length == ys.length && sameEntries xs ys
  | .policy p, .policy q => p == q
  | .outcome t f, .outcome u g => same t u && same f g
  | .entity e m _, .entity k n _ => e == k && m == n
  | x, y => sameNumber x y

/-- Whether the items of two sequences are the same. -/
def sameItems : List Value → List Value → Bool
  | [], [] => true
  | x :: xs, y :: ys => same x y && sameItems xs ys
  | _, _ => false

/-- Whether all entries on the left occur on the right. -/
def sameEntries : List (Value × Value) → List (Value × Value) → Bool
  | [], _ => true
  | (key, x) :: rest, ys =>
    ys.any (fun entry => same key entry.1 && same x entry.2) && sameEntries rest ys

end

/-! ### Keys -/

mutual

/-- Whether a value can be the key of a dictionary. -/
def isKey : Value → Bool
  | .list _ => false
  | .dict _ => false
  | .tuple items => areKeys items
  | _ => true

/-- Whether all values can be keys. -/
def areKeys : List Value → Bool
  | [] => true
  | x :: rest => isKey x && areKeys rest

end

/-- The entries of a dictionary with one more.  Where the key is there already it keeps its place
and its spelling, and gets the new value. -/
def enter (key x : Value) : List (Value × Value) → List (Value × Value)
  | [] => [(key, x)]
  | (k, y) :: rest => if k.same key then (k, x) :: rest else (k, y) :: enter key x rest

end PlainTx.Value
