/-
**Values that can be printed.**

An integer of too many digits is not written in base ten, and so neither is a value that holds one.
A value whose containers are nested too deeply is not printed either.  Printing goes from the left
to the right, and the first thing that stands in its way is the one that is reported.

Main definitions:

* `PlainTx.Value.writable` — whether all integers of a value are short enough to be written;
* `PlainTx.Value.levels` — how deeply the containers of a value are nested;
* `PlainTx.Value.Obstacle`, `PlainTx.Value.obstacle?` — what stands in the way of printing a value;
* `PlainTx.Value.Printable` — the values that can be printed.
-/

import PlainTx.Stack
import PlainTx.Value

set_option relaxedAutoImplicit false
set_option autoImplicit false

namespace PlainTx.Value

mutual

/-- Whether all integers of a value are short enough to be written. -/
def writable : Value → Bool
  | .int z => Decimal.writable z
  | .list items => allWritable items
  | .tuple items => allWritable items
  | .dict entries => allEntriesWritable entries
  | _ => true

/-- Whether all values can be written. -/
def allWritable : List Value → Bool
  | [] => true
  | x :: rest => writable x && allWritable rest

/-- Whether all entries of a dictionary can be written. -/
def allEntriesWritable : List (Value × Value) → Bool
  | [] => true
  | (key, x) :: rest => writable key && writable x && allEntriesWritable rest

end

/-! ### Containers -/

mutual

/-- How many containers are around the innermost thing of a value. -/
def levels : Value → Nat
  | .list items => levelsOfItems items
  | .tuple items => levelsOfItems items
  | .dict entries => levelsOfEntries entries
  | _ => 0

/-- How many containers are around the innermost thing of a container with some items. -/
def levelsOfItems : List Value → Nat
  | [] => 0
  | x :: rest => max (levels x + 1) (levelsOfItems rest)

/-- How many containers are around the innermost thing of a dictionary. -/
def levelsOfEntries : List (Value × Value) → Nat
  | [] => 0
  | (key, x) :: rest => max (max (levels key) (levels x) + 1) (levelsOfEntries rest)

end

/-! ### Obstacles -/

/-- Why a value cannot be printed. -/
inductive Obstacle where
  | tooManyDigits
  | tooDeep
deriving DecidableEq

mutual

/-- What stands in the way of printing a value, where there is room for so many containers. -/
def obstacleIn : (room : Nat) → Value → Option Obstacle
  | _, .int z => if Decimal.writable z then Option.none else some .tooManyDigits
  | room, .list items => obstacleInItems room items
  | room, .tuple items => obstacleInItems room items
  | room, .dict entries => obstacleInEntries room entries
  | _, _ => Option.none

/-- What stands in the way of printing the items of a container. -/
def obstacleInItems : (room : Nat) → List Value → Option Obstacle
  | _, [] => Option.none
  | 0, _ :: _ => some .tooDeep
  | room + 1, x :: rest => (obstacleIn room x).or (obstacleInItems (room + 1) rest)

/-- What stands in the way of printing the entries of a dictionary. -/
def obstacleInEntries : (room : Nat) → List (Value × Value) → Option Obstacle
  | _, [] => Option.none
  | 0, _ :: _ => some .tooDeep
  | room + 1, (key, x) :: rest =>
    ((obstacleIn room key).or (obstacleIn room x)).or (obstacleInEntries (room + 1) rest)

end

/-- What stands in the way of printing a value. -/
def obstacle? [Stack] (x : Value) : Option Obstacle := obstacleIn Stack.printing x

/-- A value can be printed: its integers are short, and its containers are not too deep. -/
def Printable [Stack] (x : Value) : Prop := x.writable = true ∧ x.levels ≤ Stack.printing

end PlainTx.Value
