/-
**Hexadecimal texts.**

A hexadecimal text is a list of digits after an optional marker, `0x` or `0X`.  Reading it as bytes
drops one marker and takes the digits in pairs; a text that is not made of pairs of digits is
refused, for one of three causes that are looked for in a fixed order.

Main definitions:

* `PlainTx.Hex.Marker`, `PlainTx.Hex.splitMarker` — the marker, and a text without one marker;
* `PlainTx.Hex.scan` — the marker and the digits of a hexadecimal text;
* `PlainTx.Hex.text` — a byte string as a marked lower-case text;
* `PlainTx.Hex.Fault`, `PlainTx.Hex.decode` — the bytes of a text, or why it has none;
* `PlainTx.Hex.minimalBytes` — the minimal spelling of the number a text denotes.
-/

import PlainTx.Hex.Digit

set_option relaxedAutoImplicit false
set_option autoImplicit false

namespace PlainTx.Hex

/-! ### Markers -/

/-- The two spellings of the marker. -/
inductive Marker where
  | lower
  | upper
deriving DecidableEq

/-- The characters of a marker. -/
def Marker.chars : Marker → List Char
  | .lower => ['0', 'x']
  | .upper => ['0', 'X']

/-- The marker a text starts with, and the rest. -/
def splitMarker : List Char → Option Marker × List Char
  | '0' :: 'x' :: rest => (some .lower, rest)
  | '0' :: 'X' :: rest => (some .upper, rest)
  | s => (none, s)

/-- The text without one marker. -/
def dropMarker (s : List Char) : List Char := (splitMarker s).2

@[simp] theorem splitMarker_chars_append (m : Marker) (s : List Char) :
    splitMarker (m.chars ++ s) = (some m, s) := by
  cases m <;> rfl

/-! ### Digits -/

/-- The digits of a text that holds nothing else. -/
def digits? (s : List Char) : Option (List Digit) := s.mapM Digit.ofChar?

/-- The characters of a list of digits. -/
def chars (ds : List Digit) : List Char := ds.map Digit.char

@[simp] theorem digits?_chars (ds : List Digit) : digits? (chars ds) = some ds := by
  induction ds with
  | nil => rfl
  | cons d ds ih =>
    simp only [digits?, chars, List.map_cons, List.mapM_cons, Digit.ofChar?_char] at ih ⊢
    rw [ih]; rfl

theorem chars_of_digits? {s : List Char} {ds : List Digit} (h : digits? s = some ds) :
    chars ds = s := by
  induction s generalizing ds with
  | nil => cases h; rfl
  | cons c s ih =>
    simp only [digits?, List.mapM_cons, bind, Option.bind_eq_some_iff] at h
    obtain ⟨d, hd, es, hes, h⟩ := h
    cases h
    rw [← ih hes, ← Digit.char_of_ofChar? hd]; rfl

/-- The marker and the digits of a hexadecimal text.  The empty text is none, but a marker alone
is one, without digits. -/
def scan (s : List Char) : Option (Option Marker × List Digit) :=
  match splitMarker s, s with
  | _, [] => none
  | (m, rest), _ => (digits? rest).map (m, ·)

/-! ### Bytes as texts and back -/

/-- A byte string as a marked lower-case text. -/
def text (b : Bytes) : String := String.ofList (Marker.lower.chars ++ chars (ofBytes b))

/-- Why a text spells no bytes. -/
inductive Fault where
  /-- The characters from `start` to `stop`, the first of which is `first`, are not ASCII. -/
  | notAscii (first : Char) (start stop : Nat)
  /-- The number of characters is odd. -/
  | oddLength
  /-- An ASCII character is no digit. -/
  | notADigit
deriving DecidableEq

/-- The first run of characters that are not ASCII. -/
def foreignRun? (s : List Char) : Option Fault :=
  let start := (s.takeWhile (·.toNat < 0x80)).length
  match (s.drop start).takeWhile (0x80 ≤ ·.toNat) with
  | [] => none
  | c :: run => some (.notAscii c start (start + run.length))

/-- The bytes a text spells after one marker. -/
def decode (s : List Char) : Except Fault Bytes :=
  let body := dropMarker s
  match foreignRun? body with
  | some fault => .error fault
  | none =>
    if body.length % 2 = 1 then .error .oddLength
    else match digits? body with
      | none => .error .notADigit
      | some ds => .ok (toBytes ds)

/-- The minimal spelling of the number a text denotes after one marker; an odd number of digits is
completed by a zero in front. -/
def minimalBytes (s : List Char) : Except Fault Bytes :=
  let body := dropMarker s
  (decode (if body.length % 2 = 1 then '0' :: body else body)).map Bytes.stripZeros

/-- The wording of a fault. -/
def Fault.message : Fault → String
  | .notAscii first start stop =>
    let problem := "ordinal not in range(128)"
    if start = stop then
      let shown := String.ofList (Text.escapeCode first)
      s!"'ascii' codec can't encode character '{shown}' in position {start}: {problem}"
    else s!"'ascii' codec can't encode characters in position {start}-{stop}: {problem}"
  | .oddLength => "Odd-length string"
  | .notADigit => "Non-hexadecimal digit found"

end PlainTx.Hex
