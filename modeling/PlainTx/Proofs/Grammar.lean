/-
**The grammar of fields.**

What a field takes can be told without its reader: a quantity takes numbers and hexadecimal texts, a
recipient takes twenty bytes in either of their forms, call data takes bytes, and a component of a
signature takes a number in any form.  A value that is not taken either counts as not given, or has
a flaw.  This module states the grammar of each kind of field, and that its reader decides it: the
reader takes what the grammar accepts, and names the field in the fault with which it refuses the
rest.

Main definitions:

* `PlainTx.Value.Gives` — a value gives a number;
* `PlainTx.Grammar` — what a field accepts, what counts as not given, and the flaw of the rest;
* `PlainTx.Grammar.quantity`, `PlainTx.Grammar.optionalQuantity`, `PlainTx.Grammar.recipient`,
  `PlainTx.Grammar.callData`, `PlainTx.Grammar.component` — the kinds of fields;
* `PlainTx.Entry` — a value that is given for a field; `PlainTx.Entry.Passes` and
  `PlainTx.Entry.Refused`, what becomes of it;
* `PlainTx.Entry.DecidedBy` — a reader does just that.

Main results:

* `PlainTx.Quantity.decides_read`, `PlainTx.Quantity.decides_readOptional`,
  `PlainTx.Address.decides_readSome`, `PlainTx.CallData.decides_read`,
  `PlainTx.Signature.decides_component` — **the readers decide the grammars**;
* `PlainTx.Entry.Refused.kind?` — the kind of a refusal, and the field it names.
-/

import PlainTx.Proofs.Denotation
import PlainTx.Proofs.Printing
import PlainTx.Proofs.Refusal

set_option relaxedAutoImplicit false
set_option autoImplicit false

namespace PlainTx

open Result (Decides)

/-! ### Numbers that are given -/

namespace Value

/-- The value gives the number: it denotes it, and is not the empty text, in which nothing is
written. -/
def Gives (x : Value) (n : Nat) : Prop := x.Denotes n ∧ x ≠ .text ""

/-- What is wrong with a value that gives no number. -/
def numberFlaw : Value → Flaw
  | .text _ => .notHex
  | .int _ => .negative
  | _ => .notInteger

/-- What is wrong with a value that is no address. -/
def addressFlaw : Value → Flaw
  | .bytes _ => .notCanonicalAddress
  | _ => .notAddress

/-- What is wrong with a value that is no call data; digits that are no pairs are told apart. -/
def dataFlaw : Value → Flaw
  | .text s => if (Hex.scan s.toList).isSome then .oddDigits else .notHex
  | _ => .notHex

theorem toList_ne_nil {s : String} : s.toList ≠ [] ↔ Value.text s ≠ .text "" := by
  rw [Ne, String.toList_eq_nil_iff, Ne, Value.text.injEq]

/-- A text that is scanned gives the number of its digits. -/
theorem gives_of_scan {s : String} {m : Option Hex.Marker} {ds : List Hex.Digit}
    (h : Hex.scan s.toList = some (m, ds)) : (Value.text s).Gives (Hex.toNat ds) := by
  obtain ⟨hne, hs⟩ := Hex.scan_eq_some_iff.1 h
  exact ⟨.text hs, toList_ne_nil.1 hne⟩

/-- The texts that give numbers are those that are scanned. -/
theorem exists_scan_of_gives {s : String} {n : Nat} (h : (Value.text s).Gives n) :
    ∃ m ds, Hex.scan s.toList = some (m, ds) ∧ Hex.toNat ds = n := by
  obtain ⟨hdenotes, hne⟩ := h
  cases hdenotes with
  | text hs => exact ⟨_, _, Hex.scan_eq_some_iff.2 ⟨toList_ne_nil.2 hne, hs⟩, rfl⟩

theorem gives_int (n : Nat) : (Value.int n).Gives n := ⟨.int n, by simp⟩

theorem gives_bytes (b : Bytes) : (Value.bytes b).Gives b.toNat := ⟨.bytes b, by simp⟩

theorem not_gives_negSucc (k n : Nat) : ¬ (Value.int (.negSucc k)).Gives n := by
  rintro ⟨h, _⟩
  cases h

/-- A text spells bytes if its digits, behind an optional marker, come in pairs. -/
theorem spells_of_scan {s : String} {m : Option Hex.Marker} {ds : List Hex.Digit}
    (h : Hex.scan s.toList = some (m, ds)) (heven : ds.length % 2 = 0) :
    (Value.text s).Spells (Hex.toBytes ds) :=
  .text (Hex.scan_eq_some_iff.1 h).2 heven

theorem exists_scan_of_spells {s : String} {b : Bytes} (h : (Value.text s).Spells b)
    (hne : Value.text s ≠ .text "") :
    ∃ m ds, Hex.scan s.toList = some (m, ds) ∧ ds.length % 2 = 0 ∧ Hex.toBytes ds = b := by
  cases h with
  | text hs heven =>
      exact ⟨_, _, Hex.scan_eq_some_iff.2 ⟨toList_ne_nil.2 hne, hs⟩, heven, rfl⟩

end Value

/-! ### Grammars -/

/-- What a field accepts, what counts as not given, and the flaw of any other value. -/
structure Grammar where
  Accepts : Value → Prop
  Absent : Value → Prop
  flaw : Value → Flaw

namespace Grammar

/-- A component of a signature is a number in any of its forms. -/
def component : Grammar where
  Accepts x := ∃ n, x.Gives n
  Absent _ := False
  flaw := Value.numberFlaw

/-- A quantity is a number that is not given as bytes. -/
def quantity : Grammar where
  Accepts x := (∃ n, x.Gives n) ∧ ∀ b, x ≠ .bytes b
  Absent x := x = .none
  flaw := Value.numberFlaw

/-- A quantity that need not be given. -/
def optionalQuantity : Grammar where
  Accepts x := x = .none ∨ quantity.Accepts x
  Absent _ := False
  flaw := Value.numberFlaw

/-- A recipient is twenty bytes, or forty digits behind an optional marker.  The empty address,
which is the marker alone or no bytes, counts as not given. -/
def recipient : Grammar where
  Accepts x := ∃ b, x.Spells b ∧ b.length = Format.addressSize
  Absent x := x = .none ∨ x = .text Format.emptyAddress ∨ x = .bytes []
  flaw := Value.addressFlaw

/-- Call data is bytes, or pairs of digits behind an optional marker. -/
def callData : Grammar where
  Accepts x := (∃ b, x.Spells b) ∧ x ≠ .text ""
  Absent x := x = .none
  flaw := Value.dataFlaw

end Grammar

/-- A value that is given for a field. -/
structure Entry where
  name : String
  grammar : Grammar
  value : Value

namespace Entry

/-- The field takes the value. -/
def Passes (e : Entry) : Prop := e.grammar.Accepts e.value

/-- The field does not take the value: it is not given, or has a flaw. -/
inductive Refused [Stack] (e : Entry) : Fault → Prop where
  | missing (h : e.grammar.Absent e.value) : Refused e (.missing e.name)
  | flawed (hgiven : ¬ e.grammar.Absent e.value) (h : ¬ e.Passes) :
      Refused e (.ofFlaw e.name e.value (e.grammar.flaw e.value))

variable [Stack] {α : Type} {e : Entry} {fault : Fault}

/-- The reader takes what the field takes, and refuses anything else as the field does. -/
abbrev DecidedBy (e : Entry) (x : Except Fault α) : Prop := Decides x e.Passes e.Refused

/-- A reader decides the grammar of its field if it takes what is accepted, and names the field in
the fault with which it refuses anything else. -/
theorem decidedBy_of_cases {x : Except Fault α} (hpasses : e.Passes → ∃ a, x = .ok a)
    (habsent : e.grammar.Absent e.value → x = .error (.missing e.name))
    (hflawed : ¬ e.grammar.Absent e.value → ¬ e.Passes →
      x = .error (.ofFlaw e.name e.value (e.grammar.flaw e.value))) :
    e.DecidedBy x := by
  constructor
  · refine ⟨fun ⟨a, ha⟩ => ?_, hpasses⟩
    by_contra h
    by_cases hgiven : e.grammar.Absent e.value
    · cases ha.symm.trans (habsent hgiven)
    · cases ha.symm.trans (hflawed hgiven h)
  · intro fault
    constructor
    · intro hfault
      by_cases hgiven : e.grammar.Absent e.value
      · cases hfault.symm.trans (habsent hgiven)
        exact .missing hgiven
      · have h : ¬ e.Passes := fun hpass => by
          obtain ⟨a, ha⟩ := hpasses hpass
          cases ha.symm.trans hfault
        cases hfault.symm.trans (hflawed hgiven h)
        exact .flawed hgiven h
    · intro hrefused
      cases hrefused with
      | missing h => exact habsent h
      | flawed hgiven h => exact hflawed hgiven h

/-- **The kind of a refusal tells whether a value was given**, and the refusal names the field;
unless the value cannot be printed, which is then the fault. -/
theorem Refused.kind? (h : e.Refused fault) :
    fault.field? = some (.text e.name) ∧
        (e.grammar.Absent e.value ∧ fault.kind? = some .missingField ∨
          ¬ e.grammar.Absent e.value ∧ fault.kind? = some .invalidFormat) ∨
      ¬ e.grammar.Absent e.value ∧ e.value.Unprinted fault := by
  cases h with
  | missing habsent => exact .inl ⟨rfl, .inl ⟨habsent, rfl⟩⟩
  | flawed hgiven _ =>
      rcases Fault.ofFlaw_cases e.name e.value (e.grammar.flaw e.value) with
        ⟨_, hfault⟩ | ⟨_, hunprinted⟩
      · rw [hfault]
        exact .inl ⟨rfl, .inr ⟨hgiven, rfl⟩⟩
      · exact .inr ⟨hgiven, hunprinted⟩

end Entry

/-! ### Quantities -/

namespace Quantity

theorem ofText?_of_scan {s : String} {m : Option Hex.Marker} {ds : List Hex.Digit}
    (h : Hex.scan s.toList = some (m, ds)) : ofText? s = some ⟨m.getD .lower, ds⟩ := by
  rw [ofText?, h]
  rfl

/-- **The reader of a quantity decides its grammar.** -/
theorem decides_read [Stack] (name : String) (x : Value) :
    Entry.DecidedBy ⟨name, .quantity, x⟩ (read name x) := by
  refine Entry.decidedBy_of_cases ?_ ?_ ?_
  · rintro ⟨⟨n, hgives⟩, hbytes⟩
    cases x with
    | text s =>
        obtain ⟨m, ds, hscan, _⟩ := Value.exists_scan_of_gives hgives
        exact ⟨_, by rw [read, ofText?_of_scan hscan]⟩
    | int z =>
        cases z with
        | ofNat n => exact ⟨ofNat n, rfl⟩
        | negSucc k => exact absurd hgives (Value.not_gives_negSucc k n)
    | bytes b => exact absurd rfl (hbytes b)
    | _ => cases hgives.1
  · rintro (rfl : x = .none)
    rfl
  · intro hgiven hflawed
    cases x with
    | none => exact absurd rfl hgiven
    | text s =>
        cases hscan : Hex.scan s.toList with
        | none => simp only [read, ofText?, hscan, Option.map_none]; rfl
        | some scanned =>
            obtain ⟨m, ds⟩ := scanned
            exact absurd ⟨⟨_, Value.gives_of_scan hscan⟩, by simp⟩ hflawed
    | int z =>
        cases z with
        | ofNat n => exact absurd ⟨⟨n, Value.gives_int n⟩, by simp⟩ hflawed
        | negSucc k => rfl
    | _ => rfl

/-- **The reader of a quantity that need not be given decides its grammar.** -/
theorem decides_readOptional [Stack] (name : String) (x : Value) :
    Entry.DecidedBy ⟨name, .optionalQuantity, x⟩ (readOptional name x) := by
  by_cases hx : x = .none
  · subst hx
    exact Entry.decidedBy_of_cases (fun _ => ⟨none, rfl⟩) False.elim
      fun _ h => absurd (.inl rfl) h
  · have hread : readOptional name x = (read name x).map some := by
      cases x with
      | none => exact absurd rfl hx
      | _ => rfl
    have hdecides := decides_read name x
    rw [hread]
    refine Entry.decidedBy_of_cases (fun hpass => ?_) False.elim fun _ hflawed => ?_
    · obtain ⟨q, hq⟩ := hdecides.ok_iff.2 (hpass.resolve_left hx)
      exact ⟨some q, by rw [hq]; rfl⟩
    · rw [(hdecides.error_iff _).2 (.flawed hx fun hpass => hflawed (.inr hpass))]
      rfl

end Quantity

/-! ### Recipients -/

namespace Address

/-- The address an untyped value is, which is not the empty one. -/
def readSome [Stack] (title : String) (x : Value) : Except Fault Address := do
  let some a ← read title x | throw (.missing title)
  return a

/-- Forty digits are two for each of twenty bytes, and far from an empty address. -/
theorem exists_ofText?_of_spells {s : String} {b : Bytes} (h : (Value.text s).Spells b)
    (hlength : b.length = Format.addressSize) :
    s ≠ Format.emptyAddress ∧ ∃ a, ofText? s = some a := by
  cases h with
  | @text _ m ds hs heven =>
      have hdigits : ds.length = 2 * Format.addressSize := by
        have hpairs : ds.length = 2 * (ds.length / 2) := by omega
        rw [← hlength, Hex.length_toBytes hpairs]
        exact hpairs
      have hlong : 40 ≤ s.toList.length := by
        rw [hs, Hex.written, List.length_append, Hex.length_chars, hdigits]
        exact Nat.le_add_left _ _
      have hscan : Hex.scan s.toList = some (m, ds) := by
        refine Hex.scan_eq_some_iff.2 ⟨?_, hs⟩
        intro hempty
        rw [hempty] at hlong
        cases hlong
      refine ⟨?_, ⟨m.getD .lower, ds, hdigits⟩, by simp only [ofText?, hscan, dif_pos hdigits]⟩
      rintro rfl
      exact absurd hlong (by decide)

/-- **The reader of a recipient decides its grammar.** -/
theorem decides_readSome [Stack] (name : String) (x : Value) :
    Entry.DecidedBy ⟨name, .recipient, x⟩ (readSome name x) := by
  refine Entry.decidedBy_of_cases ?_ ?_ ?_
  · rintro ⟨b, hspells, hlength⟩
    cases x with
    | bytes c =>
        cases hspells
        obtain ⟨a, ha, _⟩ := exists_ofBytes? hlength
        have hne : b ≠ [] := by
          rintro rfl
          cases hlength
        exact ⟨a, by simp only [readSome, read, if_neg hne, ha]; rfl⟩
    | text s =>
        obtain ⟨hne, a, ha⟩ := exists_ofText?_of_spells hspells hlength
        exact ⟨a, by simp only [readSome, read, if_neg hne, ha]; rfl⟩
    | _ => cases hspells
  · rintro (rfl | rfl | rfl)
    · rfl
    · rfl
    · rfl
  · intro hgiven hflawed
    cases x with
    | none => exact absurd (.inl rfl) hgiven
    | bytes b =>
        have hne : b ≠ [] := fun h => hgiven (.inr (.inr (congrArg Value.bytes h)))
        have hbytes : ofBytes? b = none := dif_neg fun h => hflawed ⟨b, .bytes b, h⟩
        simp only [readSome, read, if_neg hne, hbytes]
        rfl
    | text s =>
        have hne : s ≠ Format.emptyAddress := fun h => hgiven (.inr (.inl (congrArg Value.text h)))
        cases ha : ofText? s with
        | none => simp only [readSome, read, if_neg hne, ha]; rfl
        | some a =>
            have hread : read name (.text s) = .ok (some a) := by simp only [read, if_neg hne, ha]
            exact absurd ⟨_, spells_of_read hread, a.length_toBytes⟩ hflawed
    | _ => rfl

end Address

/-! ### Call data -/

namespace CallData

/-- **The reader of call data decides its grammar.** -/
theorem decides_read [Stack] (name : String) (x : Value) :
    Entry.DecidedBy ⟨name, .callData, x⟩ (read name x) := by
  refine Entry.decidedBy_of_cases ?_ ?_ ?_
  · rintro ⟨⟨b, hspells⟩, hne⟩
    cases x with
    | bytes c => exact ⟨c, rfl⟩
    | text s =>
        obtain ⟨m, ds, hscan, heven, _⟩ := Value.exists_scan_of_spells hspells hne
        have hodd : ¬ ds.length % 2 = 1 := by omega
        exact ⟨Hex.toBytes ds, by simp only [read, hscan, if_neg hodd]⟩
    | _ => cases hspells
  · rintro (rfl : x = .none)
    rfl
  · intro hgiven hflawed
    cases x with
    | none => exact absurd rfl hgiven
    | bytes b => exact absurd ⟨⟨b, .bytes b⟩, by simp⟩ hflawed
    | text s =>
        cases hscan : Hex.scan s.toList with
        | none => simp only [read, Value.dataFlaw, Grammar.callData, hscan]; rfl
        | some scanned =>
            obtain ⟨m, ds⟩ := scanned
            have hodd : ds.length % 2 = 1 := by
              by_contra heven
              have hspells := Value.spells_of_scan hscan (by omega)
              exact hflawed ⟨⟨_, hspells⟩, (Value.gives_of_scan hscan).2⟩
            simp only [read, Value.dataFlaw, Grammar.callData, hscan, if_pos hodd]
            rfl
    | _ => rfl

end CallData

/-! ### Components -/

namespace Signature

/-- **A component is stored as the minimal bytes of the number that its value gives.** -/
theorem component_of_gives [Stack] {name : String} {x : Value} {n : Nat} (h : x.Gives n) :
    component name x = .ok (Bytes.ofNat n) := by
  cases x with
  | text s =>
      obtain ⟨m, ds, hscan, rfl⟩ := Value.exists_scan_of_gives h
      obtain ⟨b, hb, hminimal, hnumber⟩ := Hex.minimalBytes_written m ds
      have hcheck : Check.component name (.text s) = .ok () := if_pos (by rw [hscan]; rfl)
      have hs := (Hex.scan_eq_some_iff.1 hscan).2
      rw [component, hcheck, Result.ok_bind, Value.minimalBytes, hs, hb, ← hnumber,
        Bytes.ofNat_toNat hminimal]
      rfl
  | bytes b =>
      cases h.1
      rw [← Bytes.toNat_stripZeros, Bytes.ofNat_toNat (Bytes.minimal_stripZeros b)]
      rfl
  | int z =>
      cases z with
      | ofNat k =>
          cases h.1
          exact Value.minimalBytes_ofNat n
      | negSucc k => exact absurd h (Value.not_gives_negSucc k n)
  | _ => cases h.1

/-- **The reader of a component decides its grammar.** -/
theorem decides_component [Stack] (name : String) (x : Value) :
    Entry.DecidedBy ⟨name, .component, x⟩ (component name x) := by
  refine Entry.decidedBy_of_cases (fun ⟨n, hgives⟩ => ⟨_, component_of_gives hgives⟩) False.elim ?_
  intro _ hflawed
  cases x with
  | text s =>
      cases hscan : Hex.scan s.toList with
      | none => simp only [component, Check.component, Check.hexText, hscan]; rfl
      | some scanned =>
          obtain ⟨m, ds⟩ := scanned
          exact absurd ⟨_, Value.gives_of_scan hscan⟩ hflawed
  | bytes b => exact absurd ⟨_, Value.gives_bytes b⟩ hflawed
  | int z =>
      cases z with
      | ofNat k => exact absurd ⟨k, Value.gives_int k⟩ hflawed
      | negSucc k =>
          have hcheck : Check.component name (.int (.negSucc k)) =
              .error (.ofFlaw name (.int (.negSucc k)) .negative) :=
            if_pos (Int.negSucc_lt_zero k)
          rw [component, hcheck]
          rfl
  | _ => rfl

end Signature

end PlainTx
