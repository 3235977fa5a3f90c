/-
**Faults that show values.**

The words of a fault may show a value that was refused, and a value that has no printed form is then
the fault itself.  So whoever is refused something learns why, or else that it cannot be told: that
an integer has too many digits, or that containers are nested more deeply than there is room for.
Which values these are is said here without the printing, and so is what becomes of a flaw.

Main definitions:

* `PlainTx.Value.Unprinted` — the faults that a value cannot be printed;
* `PlainTx.Decimal.leastLong` — the least number that has too many digits.

Main results:

* `PlainTx.Value.obstacle?_eq_none_iff` — **the values that can be printed**;
* `PlainTx.Value.unprinted_of_obstacle` — what is reported of the others;
* `PlainTx.Fault.ofForeignChain_eq` — the fault that two chains differ;
* `PlainTx.Fault.ofFlaw_cases` — **the fault that a field cannot take a value**.
-/

import PlainTx.Fault

set_option relaxedAutoImplicit false
set_option autoImplicit false

namespace PlainTx

/-! ### Obstacles -/

namespace Value

mutual

theorem obstacleIn_eq_none_iff (room : Nat) (x : Value) :
    obstacleIn room x = Option.none ↔ x.writable = true ∧ x.levels ≤ room := by
  match x with
  | .int z => simp [obstacleIn, writable, levels]
  | .list items => simpa [obstacleIn, writable, levels] using obstacleInItems_eq_none_iff room items
  | .tuple items =>
      simpa [obstacleIn, writable, levels] using obstacleInItems_eq_none_iff room items
  | .dict entries =>
      simpa [obstacleIn, writable, levels] using obstacleInEntries_eq_none_iff room entries
  | .none | .bool _ | .real _ | .text _ | .bytes _ | .signature _ | .policy _ | .outcome _ _
  | .entity _ _ _ => simp [obstacleIn, writable, levels]

theorem obstacleInItems_eq_none_iff (room : Nat) (items : List Value) :
    obstacleInItems room items = Option.none ↔
      allWritable items = true ∧ levelsOfItems items ≤ room := by
  match room, items with
  | _, [] => simp [obstacleInItems, allWritable, levelsOfItems]
  | 0, _ :: _ => simp [obstacleInItems, levelsOfItems]
  | room + 1, x :: rest =>
      simp only [obstacleInItems, allWritable, levelsOfItems, Option.or_eq_none_iff,
        obstacleIn_eq_none_iff room x, obstacleInItems_eq_none_iff (room + 1) rest,
        Bool.and_eq_true, Nat.max_le, Nat.add_le_add_iff_right]
      exact and_and_and_comm

theorem obstacleInEntries_eq_none_iff (room : Nat) (entries : List (Value × Value)) :
    obstacleInEntries room entries = Option.none ↔
      allEntriesWritable entries = true ∧ levelsOfEntries entries ≤ room := by
  match room, entries with
  | _, [] => simp [obstacleInEntries, allEntriesWritable, levelsOfEntries]
  | 0, _ :: _ => simp [obstacleInEntries, levelsOfEntries]
  | room + 1, (key, x) :: rest =>
      simp only [obstacleInEntries, allEntriesWritable, levelsOfEntries, Option.or_eq_none_iff,
        obstacleIn_eq_none_iff room key, obstacleIn_eq_none_iff room x,
        obstacleInEntries_eq_none_iff (room + 1) rest, Bool.and_eq_true, Nat.max_le,
        Nat.add_le_add_iff_right]
      rw [and_and_and_comm (a := key.writable = true), and_and_and_comm]

end

/-- **The values that can be printed** are those that nothing stands in the way of printing. -/
theorem obstacle?_eq_none_iff [Stack] {x : Value} : x.obstacle? = Option.none ↔ x.Printable :=
  obstacleIn_eq_none_iff Stack.printing x

/-- Something cannot be printed in some room, by what is known of its integers and its levels. -/
inductive Obstructed (room : Nat) (written : Bool) (levels : Nat) : Obstacle → Prop where
  | tooManyDigits (h : written = false) : Obstructed room written levels .tooManyDigits
  | tooDeep (h : room < levels) : Obstructed room written levels .tooDeep

namespace Obstructed

variable {room m n : Nat} {p q : Bool} {obstacle : Obstacle}

/-- What cannot be printed cannot be printed inside a container, with one level less. -/
theorem inside (h : Obstructed room p n obstacle) : Obstructed (room + 1) p (n + 1) obstacle := by
  cases h with
  | tooManyDigits h => exact .tooManyDigits h
  | tooDeep h => exact .tooDeep (Nat.succ_lt_succ h)

theorem left (h : Obstructed room p n obstacle) : Obstructed room (p && q) (max n m) obstacle := by
  cases h with
  | tooManyDigits h => exact .tooManyDigits (by rw [h, Bool.false_and])
  | tooDeep h => exact .tooDeep (Nat.lt_of_lt_of_le h (Nat.le_max_left n m))

theorem right (h : Obstructed room q m obstacle) : Obstructed room (p && q) (max n m) obstacle := by
  cases h with
  | tooManyDigits h => exact .tooManyDigits (by rw [h, Bool.and_false])
  | tooDeep h => exact .tooDeep (Nat.lt_of_lt_of_le h (Nat.le_max_right n m))

end Obstructed

mutual

theorem obstructed_of_obstacleIn {room : Nat} {obstacle : Obstacle} (x : Value) :
    obstacleIn room x = some obstacle → Obstructed room x.writable x.levels obstacle := by
  match x with
  | .int z =>
      rw [obstacleIn, writable]
      split
      · exact nofun
      · next hlong =>
          rintro ⟨⟩
          exact .tooManyDigits (Bool.eq_false_iff.2 hlong)
  | .list items => exact obstructed_of_obstacleInItems items
  | .tuple items => exact obstructed_of_obstacleInItems items
  | .dict entries => exact obstructed_of_obstacleInEntries entries
  | .none | .bool _ | .real _ | .text _ | .bytes _ | .signature _ | .policy _ | .outcome _ _
  | .entity _ _ _ => exact nofun

theorem obstructed_of_obstacleInItems {room : Nat} {obstacle : Obstacle} (items : List Value) :
    obstacleInItems room items = some obstacle →
      Obstructed room (allWritable items) (levelsOfItems items) obstacle := by
  match room, items with
  | room, [] => cases room <;> exact nofun
  | 0, x :: rest =>
      rintro ⟨⟩
      exact .tooDeep (Nat.lt_of_lt_of_le x.levels.succ_pos (Nat.le_max_left _ _))
  | room + 1, x :: rest =>
      intro h
      rw [allWritable, levelsOfItems]
      rcases Option.or_eq_some_iff.1 h with h | ⟨_, h⟩
      · exact (obstructed_of_obstacleIn x h).inside.left
      · exact (obstructed_of_obstacleInItems rest h).right

theorem obstructed_of_obstacleInEntries {room : Nat} {obstacle : Obstacle}
    (entries : List (Value × Value)) :
    obstacleInEntries room entries = some obstacle →
      Obstructed room (allEntriesWritable entries) (levelsOfEntries entries) obstacle := by
  match room, entries with
  | room, [] => cases room <;> exact nofun
  | 0, (key, x) :: rest =>
      rintro ⟨⟩
      exact .tooDeep (Nat.lt_of_lt_of_le (max key.levels x.levels).succ_pos (Nat.le_max_left _ _))
  | room + 1, (key, x) :: rest =>
      intro h
      rw [allEntriesWritable, levelsOfEntries]
      rcases Option.or_eq_some_iff.1 h with h | ⟨_, h⟩
      · rcases Option.or_eq_some_iff.1 h with h | ⟨_, h⟩
        · exact (obstructed_of_obstacleIn key h).left.inside.left
        · exact (obstructed_of_obstacleIn x h).right.inside.left
      · exact (obstructed_of_obstacleInEntries rest h).right

end

theorem allWritable_of_mem {x : Value} {items : List Value} (hx : x ∈ items)
    (h : x.writable = false) : allWritable items = false := by
  induction hx with
  | head rest => rw [allWritable, h, Bool.false_and]
  | tail y _ ih => rw [allWritable, ih, Bool.and_false]

theorem levels_lt_of_mem {x : Value} {items : List Value} (hx : x ∈ items) :
    x.levels < levelsOfItems items := by
  induction hx with
  | head rest => exact Nat.lt_of_lt_of_le x.levels.lt_succ_self (Nat.le_max_left _ _)
  | tail y _ ih => exact Nat.lt_of_lt_of_le ih (Nat.le_max_right _ _)

/-- **The faults that a value cannot be printed.** -/
inductive Unprinted [Stack] (x : Value) : Fault → Prop where
  | tooManyDigits (h : x.writable = false) : Unprinted x .tooManyDigits
  | tooDeep (h : Stack.printing < x.levels) : Unprinted x .tooDeeplyNested

variable [Stack] {x : Value} {fault : Fault}

/-- What is reported to stand in the way is there. -/
theorem unprinted_of_obstacle {obstacle : Obstacle} (h : x.obstacle? = some obstacle) :
    x.Unprinted (.ofObstacle obstacle) := by
  cases obstructed_of_obstacleIn x h with
  | tooManyDigits hlong => exact .tooManyDigits hlong
  | tooDeep hdeep => exact .tooDeep hdeep

/-- A value that can be printed is not at fault. -/
theorem Unprinted.not_printable (h : x.Unprinted fault) : ¬ x.Printable := by
  rintro ⟨hwritable, hlevels⟩
  cases h with
  | tooManyDigits h =>
      rw [hwritable] at h
      cases h
  | tooDeep h => omega

/-- A list cannot be printed if one of its items cannot. -/
theorem Unprinted.list {items : List Value} (h : x.Unprinted fault) (hx : x ∈ items) :
    (Value.list items).Unprinted fault := by
  cases h with
  | tooManyDigits h => exact .tooManyDigits (allWritable_of_mem hx h)
  | tooDeep h => exact .tooDeep (Nat.lt_trans h (levels_lt_of_mem hx))

/-- A tuple cannot be printed if one of its items cannot. -/
theorem Unprinted.tuple {items : List Value} (h : x.Unprinted fault) (hx : x ∈ items) :
    (Value.tuple items).Unprinted fault := by
  cases h with
  | tooManyDigits h => exact .tooManyDigits (allWritable_of_mem hx h)
  | tooDeep h => exact .tooDeep (Nat.lt_trans h (levels_lt_of_mem hx))

end Value

/-! ### Flaws -/

namespace Fault

/-- Two chains are named in the fault that they differ if both are short enough to be written. -/
theorem ofForeignChain_eq (signed own : Nat) : ofForeignChain signed own =
    if signed < Decimal.powTen Decimal.digitLimit ∧ own < Decimal.powTen Decimal.digitLimit then
      .foreignChain signed own
    else .tooManyDigits := by
  simp only [ofForeignChain, Bool.and_eq_true, Decimal.writable_natCast]

variable [Stack] {field : String} {x : Value} {flaw : Flaw}

/-- **The fault that a field cannot take a value**: that the value is malformed, or that this cannot
be told because the value cannot be printed. -/
theorem ofFlaw_cases (field : String) (x : Value) (flaw : Flaw) :
    (flaw.shows = true → x.Printable) ∧ ofFlaw field x flaw = .malformed field x flaw ∨
      flaw.shows = true ∧ x.Unprinted (ofFlaw field x flaw) := by
  rw [ofFlaw]
  cases hshows : flaw.shows with
  | false => exact .inl ⟨nofun, rfl⟩
  | true =>
      rw [if_pos rfl, showing]
      cases hobstacle : x.obstacle? with
      | none => exact .inl ⟨fun _ => Value.obstacle?_eq_none_iff.1 hobstacle, rfl⟩
      | some obstacle => exact .inr ⟨rfl, Value.unprinted_of_obstacle hobstacle⟩

/-- A flaw that can be told is told. -/
theorem ofFlaw_of_printable (h : flaw.shows = true → x.Printable) :
    ofFlaw field x flaw = .malformed field x flaw := by
  rcases ofFlaw_cases field x flaw with ⟨_, hfault⟩ | ⟨hshows, hunprinted⟩
  · exact hfault
  · exact absurd (h hshows) hunprinted.not_printable

/-- A flaw of an integer that is too long to be shown. -/
theorem ofFlaw_of_long {z : Int} (hshows : flaw.shows = true) (hz : Decimal.writable z = false) :
    ofFlaw field (.int z) flaw = .tooManyDigits := by
  rw [ofFlaw, if_pos hshows, showing, Value.obstacle?, Value.obstacleIn, hz]
  rfl

end Fault

/-! ### The shortest integers that are too long -/

namespace Decimal

/-- The least number that has too many digits. -/
def leastLong : Nat := powTen digitLimit

theorem powTen_pos (n : Nat) : 0 < powTen n := Nat.pow_pos (by decide)

theorem leastLong_pos : 0 < leastLong := powTen_pos digitLimit

theorem not_writable_leastLong : writable leastLong = false :=
  decide_eq_false (by rw [Int.natAbs_natCast]; exact Nat.lt_irrefl _)

theorem not_writable_neg_leastLong : writable (-leastLong) = false :=
  decide_eq_false (by rw [Int.natAbs_neg, Int.natAbs_natCast]; exact Nat.lt_irrefl _)

end Decimal

end PlainTx
