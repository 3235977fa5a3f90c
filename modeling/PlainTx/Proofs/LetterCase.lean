/-
**Lower case is settled.**

Putting a text into lower case twice is the same as doing it once, and it uncovers no blanks at the
ends.  Both are facts about the table of capital letters: no lower-case form in it is a capital
again, and none is a blank.  They are checked run by run, where two ranges of code points either lie
apart or leave out each other's places, and then carried over from characters to texts.

Main definitions:

* `PlainTx.Text.Settled` — a character that stays as it is in lower case, whatever surrounds it;
* `PlainTx.Text.Trimmed` — a text that neither begins nor ends with a blank.

Main results:

* `PlainTx.Text.settled_lowerChar`, `PlainTx.Text.isBlank_lowerChar` — the lower-case form of a
  character is settled, and is no blank unless the character is one;
* `PlainTx.Text.lower_eq_map` — lowering texts in which no character depends on its neighbours;
* `PlainTx.Text.lower_lower` — **lowering twice is lowering once**;
* `PlainTx.Text.trimmed_trimBy`, `PlainTx.Text.trimBy_of_trimmed` — trimming;
* `PlainTx.Text.trimmed_lowerFrom` — **lowering uncovers no blanks at the ends**;
* `PlainTx.Hex.lower_written`, `PlainTx.Hex.exists_of_lower_eq_chars` — digits in lower case are
  digits, and nothing else is.
-/

import Mathlib.Data.List.DropRight
import PlainTx.Proofs.Denotation
import PlainTx.Text.Blank
import PlainTx.Text.Lowercase

set_option relaxedAutoImplicit false
set_option autoImplicit false

namespace PlainTx.Text

/-! ### The table of capital letters -/

namespace Run

/-- The code point of the lower-case form that a run gives. -/
def image (run : Run) (n : Nat) : Nat := (n + run.shift).toNat

/-- The lower-case forms of a run avoid a range of code points. -/
def avoids (run : Run) (range : Nat × Nat) : Bool :=
  (run.image run.last).blt range.1 || range.2.blt (run.image run.first)

/-- The lower-case forms of one run are no capitals of another: the ranges lie apart, or the one
takes the places that the other leaves out. -/
def apart (run other : Run) : Bool :=
  run.avoids (other.first, other.last) ||
    (run.step == 2 || run.first == run.last) && other.step == 2 &&
      (run.image run.first + other.first) % 2 == 1

/-- The lower-case forms of a run are characters, no capitals again, no blanks, and not the capital
i with a dot. -/
def settles (run : Run) : Bool :=
  decide (0 ≤ run.first + run.shift) && (run.image run.last).blt 0x110000 &&
    (capitals.all fun other => run.apart other) &&
    ((0x130, 0x130) :: (0xD800, 0xDFFF) :: (spaces ++ separators)).all run.avoids

variable {run other : Run} {n : Nat}

theorem has_iff : run.has n = true ↔
    run.first ≤ n ∧ n ≤ run.last ∧ (n - run.first) % run.step = 0 := by
  simp only [has, Bool.and_eq_true, decide_eq_true_eq, beq_iff_eq, and_assoc]

theorem image_mono {m : Nat} (h : m ≤ n) : run.image m ≤ run.image n := by
  simp only [image]
  omega

/-- What a run gives lies outside a range that its lower-case forms avoid. -/
theorem image_of_avoids {range : Nat × Nat} (h : run.avoids range = true) (hn : run.has n = true) :
    run.image n < range.1 ∨ range.2 < run.image n := by
  obtain ⟨hfirst, hlast, _⟩ := has_iff.1 hn
  simp only [avoids, Bool.or_eq_true, Nat.blt_eq] at h
  rcases h with h | h
  · exact .inl (Nat.lt_of_le_of_lt (image_mono hlast) h)
  · exact .inr (Nat.lt_of_lt_of_le h (image_mono hfirst))

/-- What a run gives is no capital of a run that lies apart. -/
theorem not_has_image_of_apart (hstart : 0 ≤ run.first + run.shift)
    (h : run.apart other = true) (hn : run.has n = true) : other.has (run.image n) = false := by
  by_contra hother
  obtain ⟨hfirst', hlast', hstep'⟩ := has_iff.1 (eq_true_of_ne_false hother)
  obtain ⟨hfirst, hlast, hstep⟩ := has_iff.1 hn
  simp only [apart, Bool.or_eq_true, Bool.and_eq_true, beq_iff_eq] at h
  rcases h with h | ⟨⟨hplaces, htwo⟩, hodd⟩
  · rcases image_of_avoids h hn with h | h
    · exact absurd hfirst' (Nat.not_le.2 h)
    · exact absurd hlast' (Nat.not_le.2 h)
  · -- both runs take every second place, but not the same ones
    have hplace : (n - run.first) % 2 = 0 := by
      rcases hplaces with h | h
      · rwa [h] at hstep
      · omega
    rw [htwo] at hstep'
    simp only [image] at *
    omega

end Run

theorem settles_capitals : capitals.all Run.settles = true := by decide +kernel

/-- The lower-case form of a character is the character itself, if that is no capital, and otherwise
what a run of the table gives. -/
theorem lowerChar_cases (c : Char) :
    lowerChar c = c ∧ (∀ run ∈ capitals, run.has c.toNat = false) ∨
      ∃ run ∈ capitals, run.settles = true ∧ run.has c.toNat = true ∧
        (lowerChar c).toNat = run.image c.toNat := by
  cases hfind : capitals.find? (·.has c.toNat) with
  | none =>
      refine .inl ⟨by rw [lowerChar, hfind], fun run hrun => ?_⟩
      exact Bool.eq_false_iff.2 (List.find?_eq_none.1 hfind run hrun)
  | some run =>
      have hrun := List.mem_of_find?_eq_some hfind
      have hhas := List.find?_some hfind
      have hsettles := List.all_eq_true.1 settles_capitals run hrun
      refine .inr ⟨run, hrun, hsettles, hhas, ?_⟩
      simp only [Run.settles, Bool.and_eq_true, List.all_cons, Nat.blt_eq] at hsettles
      obtain ⟨⟨⟨_, hlarge⟩, _⟩, _, hsurrogates, _⟩ := hsettles
      have hlast : run.image c.toNat ≤ run.image run.last :=
        Run.image_mono (Run.has_iff.1 hhas).2.1
      have hsurrogates := Run.image_of_avoids hsurrogates hhas
      have hvalid : (run.image c.toNat).isValidChar := by
        simp only [Nat.isValidChar]
        omega
      have hlower : lowerChar c = Char.ofNat (run.image c.toNat) := by
        rw [lowerChar, hfind, Run.image]
      rw [hlower, Char.ofNat, dif_pos hvalid]
      rfl

/-! ### Characters -/

/-- A character that stays as it is in lower case, whatever surrounds it. -/
def Settled (c : Char) : Prop := c ≠ '\u0130' ∧ c ≠ '\u03A3' ∧ lowerChar c = c

instance (c : Char) : Decidable (Settled c) := inferInstanceAs (Decidable (_ ∧ _ ∧ _))

/-- A character is settled if it is no capital, and not the capital i with a dot. -/
theorem settled_of_not_has {c : Char} (hi : c ≠ '\u0130')
    (h : ∀ run ∈ capitals, run.has c.toNat = false) : Settled c := by
  refine ⟨hi, ?_, ?_⟩
  · rintro rfl
    have hsigma : (capitals.all fun run => !run.has '\u03A3'.toNat) = false := by decide +kernel
    rw [List.all_eq_true.2 fun run hrun => by rw [h run hrun]; rfl] at hsigma
    cases hsigma
  · rcases lowerChar_cases c with ⟨hc, _⟩ | ⟨run, hrun, _, hhas, _⟩
    · exact hc
    · rw [h run hrun] at hhas
      cases hhas

/-- **The lower-case form of a character is settled.** -/
theorem settled_lowerChar {c : Char} (hi : c ≠ '\u0130') : Settled (lowerChar c) := by
  rcases lowerChar_cases c with ⟨hc, hnone⟩ | ⟨run, hrun, hsettles, hhas, himage⟩
  · rw [hc]
    exact settled_of_not_has hi hnone
  · simp only [Run.settles, Bool.and_eq_true, List.all_cons, decide_eq_true_eq] at hsettles
    obtain ⟨⟨⟨hstart, _⟩, hapart⟩, hdotted, _⟩ := hsettles
    refine settled_of_not_has ?_ fun other hother => ?_
    · intro h
      have hne := Run.image_of_avoids hdotted hhas
      rw [← himage, h] at hne
      exact absurd hne (by decide)
    · rw [himage]
      exact Run.not_has_image_of_apart hstart (List.all_eq_true.1 hapart other hother) hhas

/-- A blank is no lower-case form of another character. -/
theorem isBlank_lowerChar {c : Char} (h : isBlank c = false) : isBlank (lowerChar c) = false := by
  rcases lowerChar_cases c with ⟨hc, _⟩ | ⟨run, _, hsettles, hhas, himage⟩
  · rw [hc]
    exact h
  · simp only [Run.settles, Bool.and_eq_true, List.all_cons] at hsettles
    obtain ⟨_, _, _, hblanks⟩ := hsettles
    have hnone : Ranges.has (spaces ++ separators) (lowerChar c) = false := by
      refine List.any_eq_false.2 fun range hrange => ?_
      have hout := Run.image_of_avoids (List.all_eq_true.1 hblanks range hrange) hhas
      rw [himage]
      simp only [Bool.and_eq_true, decide_eq_true_eq]
      omega
    rwa [Ranges.has, List.any_append] at hnone

/-! ### Texts -/

/-- Lowering a text in which no character depends on its neighbours. -/
theorem lowerFrom_eq_map {s : List Char} (h : ∀ c ∈ s, c ≠ '\u0130' ∧ c ≠ '\u03A3')
    (inWord : Bool) : lowerFrom inWord s = s.map lowerChar := by
  induction s generalizing inWord with
  | nil => rfl
  | cons c rest ih =>
      obtain ⟨⟨hi, hsigma⟩, hrest⟩ := List.forall_mem_cons.1 h
      simp [lowerFrom, hi, hsigma, ih hrest]

/-- Lowering a text in which no character depends on its neighbours. -/
theorem lower_eq_map {s : List Char} (h : ∀ c ∈ s, c ≠ '\u0130' ∧ c ≠ '\u03A3') :
    lower s = s.map lowerChar :=
  lowerFrom_eq_map h false

/-- The three letters that are no simple lower-case forms are settled, and are no blanks. -/
theorem settled_special {c : Char} (h : c ∈ ['i', '\u0307', '\u03C2']) :
    Settled c ∧ isBlank c = false := by
  have hall : ['i', '\u0307', '\u03C2'].all (fun c => decide (Settled c) && !isBlank c) = true := by
    decide +kernel
  simpa using List.all_eq_true.1 hall c h

/-- Each character gives a piece of its own, which is settled, and has no blanks if the character is
none. -/
theorem exists_lowerFrom_cons (inWord : Bool) (c : Char) (rest : List Char) :
    ∃ piece inWord', lowerFrom inWord (c :: rest) = piece ++ lowerFrom inWord' rest ∧ piece ≠ [] ∧
      ∀ x ∈ piece, Settled x ∧ (isBlank c = false → isBlank x = false) := by
  have hspecial : ∀ piece : List Char, (∀ x ∈ piece, x ∈ ['i', '\u0307', '\u03C2']) →
      ∀ x ∈ piece, Settled x ∧ (isBlank c = false → isBlank x = false) := fun piece h x hx =>
    ⟨(settled_special (h x hx)).1, fun _ => (settled_special (h x hx)).2⟩
  simp only [lowerFrom]
  split
  · exact ⟨['i', '\u0307'], _, rfl, by simp, hspecial _ (by simp)⟩
  · next hi =>
      split
      · exact ⟨['\u03C2'], _, rfl, by simp, hspecial _ (by simp)⟩
      · refine ⟨[lowerChar c], _, rfl, by simp, List.forall_mem_singleton.2 ?_⟩
        exact ⟨settled_lowerChar hi, isBlank_lowerChar⟩

theorem settled_of_mem_lowerFrom {s : List Char} {inWord : Bool} {x : Char}
    (h : x ∈ lowerFrom inWord s) : Settled x := by
  induction s generalizing inWord with
  | nil => cases h
  | cons c rest ih =>
      obtain ⟨piece, inWord', hlower, _, hpiece⟩ := exists_lowerFrom_cons inWord c rest
      rw [hlower, List.mem_append] at h
      rcases h with h | h
      · exact (hpiece x h).1
      · exact ih h

/-- **Lowering twice is lowering once.** -/
theorem lower_lower (s : List Char) : lower (lower s) = lower s := by
  have hsettled : ∀ c ∈ lower s, Settled c := fun c hc => settled_of_mem_lowerFrom hc
  rw [lower_eq_map fun c hc => ⟨(hsettled c hc).1, (hsettled c hc).2.1⟩]
  rw [List.map_congr_left fun c hc => (hsettled c hc).2.2, List.map_id']

/-! ### Trimmed texts -/

/-- A text that neither begins nor ends with a character of a class. -/
structure Trimmed (p : Char → Bool) (s : List Char) : Prop where
  head : ∀ c ∈ s.head?, p c = false
  last : ∀ c ∈ s.getLast?, p c = false

variable {p : Char → Bool} {s : List Char}

theorem trimmed_of_forall (h : ∀ c ∈ s, p c = false) : Trimmed p s where
  head c hc := h c (List.mem_of_mem_head? hc)
  last c hc := h c (List.mem_of_mem_getLast? hc)

theorem trimmed_trimBy (p : Char → Bool) (s : List Char) : Trimmed p (trimBy p s) where
  head := by
    intro c hc
    -- what is left after the second trimming begins as it did before
    obtain ⟨rest, hrest⟩ := List.rdropWhile_prefix p (s.dropWhile p)
    have hhead : (s.dropWhile p).head? = some c := by
      rw [← hrest, List.head?_append]
      exact Option.or_eq_some_iff.2 (.inl hc)
    simpa [hhead] using List.head?_dropWhile_not p s
  last := by
    intro c hc
    rw [trimBy, List.getLast?_reverse, Option.mem_def] at hc
    simpa [hc] using List.head?_dropWhile_not p (s.dropWhile p).reverse

theorem dropWhile_of_head? (h : ∀ c ∈ s.head?, p c = false) : s.dropWhile p = s := by
  cases s with
  | nil => rfl
  | cons c rest => rw [List.dropWhile_cons_of_neg (by simp [h c rfl])]

/-- Trimming leaves a trimmed text as it is. -/
theorem trimBy_of_trimmed (h : Trimmed p s) : trimBy p s = s := by
  have hlast : ∀ c ∈ s.reverse.head?, p c = false := by
    rw [List.head?_reverse]
    exact h.last
  rw [trimBy, dropWhile_of_head? h.head, dropWhile_of_head? hlast, List.reverse_reverse]

/-- Lowering a trimmed text uncovers no blank at its ends. -/
theorem trimmed_lowerFrom (h : Trimmed isBlank s) (inWord : Bool) :
    Trimmed isBlank (lowerFrom inWord s) where
  head := by
    intro x hx
    cases s with
    | nil => cases hx
    | cons c rest =>
        obtain ⟨piece, _, hlower, hne, hpiece⟩ := exists_lowerFrom_cons inWord c rest
        rw [hlower, List.head?_append_of_ne_nil _ hne] at hx
        exact (hpiece x (List.mem_of_mem_head? hx)).2 (h.head c rfl)
  last := by
    have hlast := h.last
    clear h
    induction s generalizing inWord with
    | nil => exact fun x hx => by cases hx
    | cons c rest ih =>
        intro x hx
        obtain ⟨piece, inWord', hlower, hne, hpiece⟩ := exists_lowerFrom_cons inWord c rest
        cases rest with
        | nil =>
            rw [hlower, lowerFrom, List.append_nil] at hx
            exact (hpiece x (List.mem_of_mem_getLast? hx)).2 (hlast c rfl)
        | cons d rest =>
            obtain ⟨piece', _, hlower', hne', _⟩ := exists_lowerFrom_cons inWord' d rest
            refine ih inWord' hlast x ?_
            rwa [hlower, List.getLast?_append_of_ne_nil] at hx
            rw [hlower']
            exact List.append_ne_nil_of_left_ne_nil hne' _

end PlainTx.Text

/-! ### Digits -/

namespace PlainTx.Hex

open PlainTx.Text (lower lowerChar lowerFrom)

/-- The lower-case form of a digit, as a character. -/
theorem lowerChar_char (d : Digit) : lowerChar d.char = d.lowerCase.char := by
  have hascii : (digitValue? d.char).all fun value => lowerChar d.char == Text.hexDigit value :=
    d.of_chars (p := fun c => (digitValue? c).all (fun value => lowerChar c == Text.hexDigit value))
      (by decide +kernel)
  rw [← Option.some_get d.isHex, Option.all_some, beq_iff_eq] at hascii
  exact hascii

theorem isSome_digitValue?_iff {c : Char} : (digitValue? c).isSome = true ↔
    0x30 ≤ c.toNat ∧ c.toNat ≤ 0x39 ∨ 0x61 ≤ c.toNat ∧ c.toNat ≤ 0x66 ∨
      0x41 ≤ c.toNat ∧ c.toNat ≤ 0x46 := by
  unfold digitValue?
  split
  · simp [*]
  · split
    · simp [*]
    · split
      · simp [*]
      · simp [*]

/-- Only digits have lower-case forms that are digits. -/
theorem isSome_of_lowerChar {c : Char} (h : (digitValue? (lowerChar c)).isSome = true) :
    (digitValue? c).isSome = true := by
  rcases Text.lowerChar_cases c with ⟨hc, _⟩ | ⟨run, hrun, _, hhas, himage⟩
  · rwa [hc] at h
  · -- the capital letters of ASCII come first in the table, and no other run comes near the digits
    have hothers : Text.capitals.tail.all (fun run => run.avoids (0x30, 0x66)) = true := by
      decide +kernel
    rw [isSome_digitValue?_iff, himage] at h
    rcases List.mem_cons.1 hrun with rfl | hrun
    · have hfirst := Text.Run.has_iff.1 hhas
      simp only [Text.Run.image] at h hfirst
      rw [isSome_digitValue?_iff]
      omega
    · have hout := Text.Run.image_of_avoids (List.all_eq_true.1 hothers run hrun) hhas
      simp only at hout
      omega

theorem isSome_of_mem_lowerFrom {s : List Char} {inWord : Bool}
    (h : ∀ x ∈ lowerFrom inWord s, (digitValue? x).isSome = true) :
    ∀ c ∈ s, (digitValue? c).isSome = true := by
  induction s generalizing inWord with
  | nil => exact fun c hc => by cases hc
  | cons c rest ih =>
      simp only [lowerFrom] at h
      split at h
      · exact absurd (h 'i' List.mem_cons_self) (by decide)
      · split at h
        · exact absurd (h '\u03C2' List.mem_cons_self) (by decide)
        · obtain ⟨hc, hrest⟩ := List.forall_mem_cons.1 h
          exact List.forall_mem_cons.2 ⟨isSome_of_lowerChar hc, ih hrest⟩

/-- The lower-case form of digits behind an optional marker. -/
theorem lower_written (m : Option Marker) (ds : List Digit) :
    lower (written m ds) = written (m.map fun _ => .lower) (ds.map Digit.lowerCase) := by
  have hmarker : ∀ m : Option Marker,
      (m.elim [] Marker.chars).map lowerChar = (m.map fun _ => .lower).elim [] Marker.chars ∧
        (m.elim [] Marker.chars).all fun c => decide (c.toNat < 0x80) := by
    rintro (_ | _ | _) <;> decide +kernel
  have hascii : ∀ c ∈ written m ds, c.toNat < 0x80 := by
    intro c hc
    rcases List.mem_append.1 hc with hc | hc
    · exact of_decide_eq_true (List.all_eq_true.1 (hmarker m).2 c hc)
    · obtain ⟨d, _, rfl⟩ := List.mem_map.1 hc
      exact d.toNat_char_lt
  have hplain : ∀ c ∈ written m ds, c ≠ '\u0130' ∧ c ≠ '\u03A3' := fun c hc =>
    ⟨fun h => absurd (h ▸ hascii c hc) (by decide), fun h => absurd (h ▸ hascii c hc) (by decide)⟩
  rw [Text.lower_eq_map hplain, written, written, List.map_append, (hmarker m).1]
  simp only [chars, List.map_map, Function.comp_def, lowerChar_char]

theorem exists_chars_of_forall {s : List Char} (h : ∀ c ∈ s, (digitValue? c).isSome = true) :
    ∃ ds, chars ds = s := by
  induction s with
  | nil => exact ⟨[], rfl⟩
  | cons c rest ih =>
      obtain ⟨hc, hrest⟩ := List.forall_mem_cons.1 h
      obtain ⟨ds, rfl⟩ := ih hrest
      exact ⟨⟨c, hc⟩ :: ds, rfl⟩

/-- **What is digits in lower case is digits**, in either case. -/
theorem exists_of_lower_eq_chars {s : List Char} {ds : List Digit} (h : lower s = chars ds) :
    ∃ es, chars es = s ∧ es.map Digit.lowerCase = ds := by
  have hdigits : ∀ x ∈ lower s, (digitValue? x).isSome = true := by
    intro x hx
    rw [h] at hx
    obtain ⟨d, _, rfl⟩ := List.mem_map.1 hx
    exact d.isHex
  obtain ⟨es, rfl⟩ := exists_chars_of_forall (isSome_of_mem_lowerFrom hdigits)
  exact ⟨es, rfl, chars_injective ((lower_written none es).symm.trans h)⟩

end PlainTx.Hex
