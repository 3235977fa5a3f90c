/-
**Differences between records.**

A difference lists the fields in which two records disagree, with both values.  Its report names
the two records, one line each for every field; where both values are numbers, the second line ends
with what has to be added to the first value to get the second.

Main definitions:

* `PlainTx.Mismatch`, `PlainTx.Difference` — one field, and a list of them;
* `PlainTx.Difference.lines` — the fields as texts;
* `PlainTx.Difference.report` — the whole report;
* `PlainTx.Difference.writable` — whether all numbers of a report are short enough to be written.
-/

import PlainTx.Value.Writable

set_option relaxedAutoImplicit false
set_option autoImplicit false

namespace PlainTx

/-- A field in which two records disagree. -/
structure Mismatch where
  field : String
  left : Value
  right : Value

/-- The fields in which two records disagree. -/
abbrev Difference := List Mismatch

/-- The text filled up with spaces behind it to the given number of characters. -/
def padRight (width : Nat) (s : String) : String :=
  s ++ String.ofList (List.replicate (width - s.length) ' ')

namespace Mismatch

/-- The same field with its two sides exchanged. -/
def swap (m : Mismatch) : Mismatch := ⟨m.field, m.right, m.left⟩

/-- What has to be added to the left number to get the right one, if both sides are numbers; a
growth has its sign written. -/
def change (m : Mismatch) : String :=
  match m.left.int?, m.right.int? with
  | some x, some y =>
    let sign := if 0 < y - x then "+" else ""
    " (" ++ sign ++ toString (y - x) ++ ")"
  | _, _ => ""

/-- The field and its two values, the names of the two records padded to one width. -/
def line (leftName rightName : String) (m : Mismatch) : String :=
  let width := max leftName.length rightName.length
  m.field ++ ":\n    (" ++ padRight width leftName ++ ") : " ++ m.left.plain ++
    "\n    (" ++ padRight width rightName ++ ") : " ++ m.right.plain ++ m.change

/-- Whether the two values, and what has to be added, are short enough to be written. -/
def writable (m : Mismatch) : Bool :=
  m.left.writable && m.right.writable &&
    match m.left.int?, m.right.int? with
    | some x, some y => Decimal.writable (y - x)
    | _, _ => true

end Mismatch

namespace Difference

/-- The fields as texts, in order. -/
def lines (leftName rightName : String) (d : Difference) : List String :=
  d.map (Mismatch.line leftName rightName)

/-- The report on a difference between two named records. -/
def report (leftName rightName : String) (d : Difference) : String :=
  let count := d.length
  let shown := "\n - ".intercalate (lines leftName rightName d)
  s!"Mismatch between {leftName} and {rightName} on {count} fields:\n - {shown}"

/-- Whether all numbers of the report are short enough to be written. -/
def writable (d : Difference) : Bool := d.all Mismatch.writable

end Difference

end PlainTx
