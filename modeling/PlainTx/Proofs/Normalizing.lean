/-
**What a field makes of a value.**

The reader of a quantity, of a recipient or of call data keeps a text of its own for the value that
it takes.  That text passes the check of its field, reading it again changes nothing, and it still
means what the value meant: the number that was given, or the bytes that were spelled.  Call data
forgets how it was spelled, so that texts which differ in letter case or in the marker are the same
call data.

Main results:

* `PlainTx.Hex.number?_marked` — the reader of numbers finds the number of some marked digits;
* `PlainTx.Quantity.hexNumber_value` — the number of a quantity is read back from its text;
* `PlainTx.Quantity.exists_of_read` — **a quantity has the number that was given**;
* `PlainTx.Address.check_optionalText`, `PlainTx.CallData.check_text` — what is kept passes the
  check of its field;
* `PlainTx.CallData.read_congr` — **call data apart from letter case and marker**;
* `PlainTx.readers_normalize` — **what is kept passes, stays and means the same**.
-/

import PlainTx.Proofs.Building
import PlainTx.Proofs.Components
import PlainTx.Proofs.LetterCase
import PlainTx.Value.Number

set_option relaxedAutoImplicit false
set_option autoImplicit false

namespace PlainTx

/-! ### Reading the number of a text -/

namespace Hex

/-- Digits are not among the other characters that the reader of numbers looks out for. -/
theorem Digit.char_plain (d : Digit) : Text.isSpace d.char = false ∧
    asciiDigit d.char = d.char ∧ d.char ≠ '-' ∧ d.char ≠ '+' ∧ d.char ≠ '_' :=
  d.of_chars (p := fun c => Text.isSpace c = false ∧ asciiDigit c = c ∧ c ≠ '-' ∧ c ≠ '+' ∧ c ≠ '_')
    (by decide +kernel)

/-- Digits without underscores are grouped digits. -/
theorem grouped?_chars {ds : List Digit} (h : ds ≠ []) : grouped? (chars ds) = some ds := by
  induction ds with
  | nil => exact absurd rfl h
  | cons d rest ih =>
      cases rest with
      | nil => simp [grouped?, chars, Text.grouped?]
      | cons e rest =>
          have hrest := ih (List.cons_ne_nil _ _)
          simp only [grouped?, chars, List.map_cons] at hrest ⊢
          rw [Text.grouped?, hrest]
          · simp
          · rintro ⟨⟩
          · intro others h
            exact e.char_plain.2.2.2.2 (List.cons.inj h).1

/-- Digits are read as the number that they spell. -/
theorem readInt?_chars {ds : List Digit} (h : ds ≠ []) :
    readInt? (chars ds) = some (toNat ds : Int) := by
  have hplain : ∀ c ∈ chars ds, Text.isSpace c = false ∧ asciiDigit c = c ∧ c ≠ '-' ∧ c ≠ '+' := by
    intro c hc
    obtain ⟨d, _, rfl⟩ := List.mem_map.1 hc
    exact ⟨d.char_plain.1, d.char_plain.2.1, d.char_plain.2.2.1, d.char_plain.2.2.2.1⟩
  have hclean : (Text.trimBy Text.isSpace (chars ds)).map asciiDigit = chars ds := by
    rw [Text.trimBy_of_trimmed (Text.trimmed_of_forall fun c hc => (hplain c hc).1),
      List.map_congr_left fun c hc => (hplain c hc).2.1, List.map_id']
  have hread : readNat? (chars ds) = some (toNat ds) := by
    rw [readNat?, splitMarker_chars]
    simp only [grouped?_chars h, Option.map_some]
  unfold readInt?
  split
  · next hsign => exact absurd rfl (hplain '-' (hclean ▸ hsign ▸ List.mem_cons_self)).2.2.1
  · next hsign => exact absurd rfl (hplain '+' (hclean ▸ hsign ▸ List.mem_cons_self)).2.2.2
  · rw [hclean, hread]
    rfl

/-- **The reader of numbers finds the number of some marked digits**, also where there are none. -/
theorem number?_marked (m : Marker) (ds : List Digit) :
    number? (m.chars ++ chars ds) = some (toNat ds : Int) := by
  have hdrop : dropMarker (m.chars ++ chars ds) = chars ds := dropMarker_written (some m) ds
  cases ds with
  | nil =>
      rw [number?, hdrop]
      rfl
  | cons d rest =>
      rw [← readInt?_chars (List.cons_ne_nil d rest), number?, hdrop]
      rfl

end Hex

/-! ### Quantities -/

namespace Quantity

/-- **The number of a quantity is read back from its text.** -/
theorem hexNumber_value (q : Quantity) : q.value.hexNumber = .ok (q.toNat : Int) := by
  rw [value, Value.hexNumber, text, String.toList_ofList, Hex.number?_marked]
  rfl

/-- **A quantity has the number that was given**, as an integer or by the digits of a text. -/
theorem exists_of_read [Stack] {title : String} {x : Value} {q : Quantity}
    (h : read title x = .ok q) :
    x = .int q.toNat ∨ ∃ s m ds, x = .text s ∧ s ≠ "" ∧ s.toList = Hex.written m ds ∧
      q.toNat = Nat.ofDigits 16 (ds.map Hex.Digit.value).reverse := by
  obtain ⟨⟨n, hgives⟩, hbytes⟩ := (decides_read title x).ok_iff.1 ⟨q, h⟩
  obtain rfl := hgives.1.unique (denotes_of_read h)
  rcases Value.gives_iff.1 hgives with hx | ⟨b, hx, _⟩ | hx
  · exact .inl hx
  · exact absurd hx (hbytes b)
  · exact .inr hx

end Quantity

/-! ### Recipients -/

namespace Address

/-- What is kept for a recipient, which may be the empty address, passes its check. -/
theorem check_optionalText [Stack] (title : String) (a : Option Address) :
    Check.address title (.text (optionalText a)) = .ok () := by
  cases a with
  | none => rfl
  | some a => exact if_pos (.inr (by rw [optionalText, ofText?_text]; rfl))

/-- The bytes of an address are read back from its text. -/
theorem decode_text (a : Address) : Hex.decode a.text.toList = .ok a.toBytes := by
  have heven : a.digits.length % 2 = 0 := by rw [a.length_digits, Nat.mul_mod_right]
  exact Hex.decode_eq_ok_iff.2 ⟨some a.marker, a.digits, a.toList_text, heven, rfl⟩

end Address

/-! ### Call data -/

namespace CallData

/-- What is kept for call data passes its check. -/
theorem check_text [Stack] (title : String) (data : Bytes) :
    Check.hexBytes title (.text (text data)) = .ok () := by
  have heven : ¬ (Hex.dropMarker (text data).toList).length % 2 = 1 := by
    rw [toList_text, Hex.dropMarker_written, Hex.length_chars, Hex.length_ofBytes]
    omega
  simp only [Check.hexBytes, Check.hexText, scan_text, Option.isSome_some, if_true, Result.ok_bind,
    if_neg heven]

/-- A text that differs from call data in letter case and marker only is the same call data. -/
theorem read_of_lower [Stack] {title s t : String} {data : Bytes} (ht : t ≠ "")
    (h : Text.lower (Hex.dropMarker s.toList) = Text.lower (Hex.dropMarker t.toList))
    (hread : read title (.text s) = .ok data) : read title (.text t) = .ok data := by
  cases spells_of_read hread with
  | @text _ m ds hs heven =>
      rw [hs, Hex.dropMarker_written] at h
      obtain ⟨es, hes, hcase⟩ :=
        Hex.exists_of_lower_eq_chars (h.symm.trans (Hex.lower_written none ds))
      have hlength : es.length = ds.length := by
        rw [← List.length_map Hex.Digit.lowerCase, hcase, List.length_map]
      have hscan : Hex.scan t.toList = some ((Hex.splitMarker t.toList).1, es) :=
        Hex.scan_eq_some_iff.2 ⟨mt String.toList_eq_nil_iff.1 ht, Hex.written_of_dropMarker hes⟩
      have hbytes : Hex.toBytes es = Hex.toBytes ds :=
        (Hex.toBytes_eq_iff (n := ds.length / 2) (by omega) (by omega)).2 hcase
      have hodd : ¬ es.length % 2 = 1 := by omega
      simp only [read, hscan, if_neg hodd, hbytes]

/-- **Texts that differ in letter case and marker only are the same call data.** -/
theorem read_congr [Stack] {title s t : String} (hs : s ≠ "") (ht : t ≠ "")
    (h : Text.lower (Hex.dropMarker s.toList) = Text.lower (Hex.dropMarker t.toList))
    {data : Bytes} : read title (.text s) = .ok data ↔ read title (.text t) = .ok data :=
  ⟨read_of_lower ht h, read_of_lower hs h.symm⟩

end CallData

/-! ### All fields -/

/-- **What is kept for a value passes the check of its field, stays as it is when it is read again,
and means what the value means.** -/
theorem readers_normalize [Stack] (title : String) (x : Value) :
    (∀ q, Quantity.read title x = .ok q →
      (∀ other, Check.quantity other q.value = .ok () ∧ Quantity.read other q.value = .ok q) ∧
      ∃ n : Nat, q.value.hexNumber = .ok n ∧
        (x = .int n ∨ ∃ s m ds, x = .text s ∧ s ≠ "" ∧ s.toList = Hex.written m ds ∧
          n = Nat.ofDigits 16 (ds.map Hex.Digit.value).reverse)) ∧
    (∀ a, Address.read title x = .ok a →
      (∀ other, Check.address other (.text (Address.optionalText a)) = .ok () ∧
        Address.read other (.text (Address.optionalText a)) = .ok a) ∧
      (a ≠ none → ∃ b, x.Spells b ∧ b.length = Format.addressSize ∧
        Hex.decode (Address.optionalText a).toList = .ok b)) ∧
    (∀ data, CallData.read title x = .ok data →
      (∀ other, Check.hexBytes other (.text (CallData.text data)) = .ok () ∧
        CallData.read other (.text (CallData.text data)) = .ok data) ∧
      x.Spells data ∧ Hex.decode (CallData.text data).toList = .ok data) ∧
    ∀ s t, s ≠ "" → t ≠ "" →
      Text.lower (Hex.dropMarker s.toList) = Text.lower (Hex.dropMarker t.toList) →
      ∀ data, CallData.read title (.text s) = .ok data ↔
        CallData.read title (.text t) = .ok data := by
  refine ⟨fun q hq => ?_, fun a ha => ?_, fun data hdata => ?_, fun s t hs ht h data => ?_⟩
  · exact ⟨fun other => ⟨Check.quantity_value other q, q.read_value other⟩, q.toNat,
      q.hexNumber_value, Quantity.exists_of_read hq⟩
  · refine ⟨fun other => ⟨Address.check_optionalText other a, Address.read_optionalText other a⟩,
      fun hne => ?_⟩
    obtain ⟨address, rfl⟩ := Option.ne_none_iff_exists'.1 hne
    exact ⟨address.toBytes, Address.spells_of_read ha, address.length_toBytes, address.decode_text⟩
  · exact ⟨fun other => ⟨CallData.check_text other data, CallData.read_text other data⟩,
      CallData.spells_of_read hdata, Hex.decode_text data⟩
  · exact CallData.read_congr hs ht h

open scoped Stack.Usual

/-- One text in mixed letter case behind the other marker, as a value, as a recipient and as call
data. -/
theorem readers_normalize_mixedCase :
    let x : Value := .text "0XabABabABabABabABabABabABabABabABabABabAB"
    (∃ q, Quantity.read "value" x = .ok q ∧ Quantity.read "value" q.value = .ok q) ∧
      (∃ a, Address.read "to" x = .ok (some a) ∧ Check.address "to" (.text a.text) = .ok ()) ∧
      ∃ data, CallData.read "input" x = .ok data ∧
        Hex.decode (CallData.text data).toList = .ok data := by
  intro x
  obtain ⟨q, hq⟩ : ∃ q, Quantity.read "value" x = .ok q := ⟨_, rfl⟩
  obtain ⟨a, ha⟩ : ∃ a, Address.read "to" x = .ok (some a) := ⟨_, rfl⟩
  obtain ⟨data, hdata⟩ : ∃ data, CallData.read "input" x = .ok data := ⟨_, rfl⟩
  exact ⟨⟨q, hq, (((readers_normalize "value" x).1 q hq).1 "value").2⟩,
    ⟨a, ha, (((readers_normalize "to" x).2.1 _ ha).1 "to").1⟩,
    data, hdata, ((readers_normalize "input" x).2.2.1 data hdata).2.2⟩

end PlainTx
