/-
**What untyped values denote.**

A number may be given as an integer, as big-endian bytes, or as the hexadecimal digits of a text; a
byte string may be given as such, or as the digits of a text, two for each byte.  In both cases a
marker may stand in front of the digits, and their letters may be in either case.  This module says
what is denoted without looking at the readers, and then that the readers find it: whatever a field
accepts, it stores as the number, or as the bytes, that the value denotes.

Main definitions:

* `PlainTx.Hex.written` — the characters of some digits behind an optional marker;
* `PlainTx.Value.Denotes` — the number that a value denotes;
* `PlainTx.Value.Spells` — the bytes that a value spells.

Main results:

* `PlainTx.Hex.scan_eq_some_iff`, `PlainTx.Hex.decode_eq_ok_iff` — **the texts that are read**;
* `PlainTx.Value.Denotes.unique`, `PlainTx.Value.Spells.unique` — a value denotes one thing;
* `PlainTx.Quantity.denotes_of_read`, `PlainTx.Address.spells_of_read`,
  `PlainTx.CallData.spells_of_read` — **fields store what their values denote**;
* `PlainTx.Signature.denotes_of_ofComponents` — and so do signatures, with minimal components.
-/

import PlainTx.CallData
import PlainTx.Proofs.Minimal
import PlainTx.Proofs.Result
import PlainTx.Proofs.Spelling
import PlainTx.Quantity
import PlainTx.Signature.Reader

set_option relaxedAutoImplicit false
set_option autoImplicit false

namespace PlainTx

namespace Hex

/-! ### Digits behind a marker -/

/-- The characters of some digits, behind a marker if there is one. -/
def written (m : Option Marker) (ds : List Digit) : List Char := m.elim [] Marker.chars ++ chars ds

/-- The second character of a marker is no digit, so digits do not start with a marker. -/
theorem splitMarker_chars (ds : List Digit) : splitMarker (chars ds) = (none, chars ds) := by
  match ds with
  | [] => rfl
  | [d] => simp [chars, splitMarker]
  | d :: e :: ds =>
      have hx : e.char ≠ 'x' := by
        intro h
        have hhex := e.isHex
        rw [h] at hhex
        exact absurd hhex (by decide)
      have hX : e.char ≠ 'X' := by
        intro h
        have hhex := e.isHex
        rw [h] at hhex
        exact absurd hhex (by decide)
      simp [chars, splitMarker, hx, hX]

@[simp] theorem splitMarker_written (m : Option Marker) (ds : List Digit) :
    splitMarker (written m ds) = (m, chars ds) := by
  cases m with
  | none => exact splitMarker_chars ds
  | some m => exact splitMarker_chars_append m (chars ds)

@[simp] theorem dropMarker_written (m : Option Marker) (ds : List Digit) :
    dropMarker (written m ds) = chars ds := by
  rw [dropMarker, splitMarker_written]

/-- Taking the marker off loses nothing. -/
theorem splitMarker_append (s : List Char) :
    (splitMarker s).1.elim [] Marker.chars ++ (splitMarker s).2 = s := by
  unfold splitMarker
  split
  · rfl
  · rfl
  · rfl

theorem chars_injective {ds es : List Digit} (h : chars ds = chars es) : ds = es := by
  have hread := digits?_chars ds
  rw [h, digits?_chars] at hread
  exact (Option.some.inj hread).symm

/-- The characters tell the digits. -/
theorem digits_of_written {m m' : Option Marker} {ds es : List Digit}
    (h : written m ds = written m' es) : ds = es := by
  refine chars_injective ?_
  rw [← dropMarker_written m ds, h, dropMarker_written]

theorem written_of_dropMarker {s : List Char} {ds : List Digit} (h : chars ds = dropMarker s) :
    s = written (splitMarker s).1 ds := by
  rw [written, h, dropMarker, splitMarker_append]

/-- **The texts that are scanned**: those of digits behind an optional marker, the empty text
excepted. -/
theorem scan_eq_some_iff {s : List Char} {m : Option Marker} {ds : List Digit} :
    scan s = some (m, ds) ↔ s ≠ [] ∧ s = written m ds := by
  cases s with
  | nil => simp [scan]
  | cons c s =>
      have hscan : scan (c :: s) =
          (digits? (splitMarker (c :: s)).2).map ((splitMarker (c :: s)).1, ·) := rfl
      rw [hscan]
      constructor
      · intro h
        obtain ⟨es, hes, hpair⟩ := Option.map_eq_some_iff.1 h
        cases hpair
        exact ⟨List.cons_ne_nil c s, written_of_dropMarker (chars_of_digits? hes)⟩
      · rintro ⟨-, h⟩
        rw [h, splitMarker_written, digits?_chars]
        rfl

/-- **The texts that are read as bytes**: those of an even number of digits behind an optional
marker. -/
theorem decode_eq_ok_iff {s : List Char} {b : Bytes} :
    decode s = .ok b ↔ ∃ m ds, s = written m ds ∧ ds.length % 2 = 0 ∧ toBytes ds = b := by
  constructor
  · intro h
    simp only [decode] at h
    split at h
    · cases h
    · split at h
      · cases h
      · next heven =>
          split at h
          · cases h
          · next ds hds =>
              cases h
              have hchars := chars_of_digits? hds
              rw [← hchars, length_chars] at heven
              exact ⟨_, ds, written_of_dropMarker hchars, by omega, rfl⟩
  · rintro ⟨m, ds, rfl, heven, rfl⟩
    have hlength : ¬ (chars ds).length % 2 = 1 := by
      rw [length_chars]
      omega
    simp only [decode, dropMarker_written, foreignRun?_chars, if_neg hlength, digits?_chars]

/-! ### Numbers of digits -/

/-- Both numbers are folds, with any number in front of them; the induction is on the pairs. -/
theorem foldl_toBytes {k : Nat} {ds : List Digit} (h : ds.length = 2 * k) (n : Nat) :
    (toBytes ds).foldl (fun n x => 256 * n + x.toNat) n =
      ds.foldl (fun n d => 16 * n + d.value) n := by
  induction k generalizing ds n with
  | zero =>
      rw [List.length_eq_zero_iff.1 h]
      rfl
  | succ k ih =>
      match ds, h with
      | hi :: lo :: rest, h =>
          have hhi := hi.value_lt
          have hlo := lo.value_lt
          have hpair : 256 * n + (pairByte hi lo).toNat = 16 * (16 * n + hi.value) + lo.value := by
            simp only [pairByte, UInt8.toNat_ofNat']
            omega
          have hrest : rest.length = 2 * k := by
            simp only [List.length_cons] at h
            omega
          rw [toBytes, List.foldl_cons, hpair, ih hrest]
          rfl

/-- The bytes that pairs of digits spell are the number that the digits spell. -/
theorem toNat_toBytes {ds : List Digit} (h : ds.length % 2 = 0) :
    Bytes.toNat (toBytes ds) = toNat ds :=
  foldl_toBytes (k := ds.length / 2) (by omega) 0

/-- A zero in front does not change the number. -/
theorem toNat_zero_cons {d : Digit} (hd : d.value = 0) (ds : List Digit) :
    toNat (d :: ds) = toNat ds := by
  rw [toNat, List.foldl_cons, hd]
  rfl

/-- **The minimal bytes of digits** are minimal and spell the number of the digits. -/
theorem minimalBytes_written (m : Option Marker) (ds : List Digit) :
    ∃ b, minimalBytes (written m ds) = .ok b ∧ Bytes.Minimal b ∧ b.toNat = toNat ds := by
  -- an odd number of digits is completed by a zero in front
  obtain ⟨es, hes, heven, hnumber⟩ : ∃ es : List Digit,
      (if (chars ds).length % 2 = 1 then '0' :: chars ds else chars ds) = chars es ∧
        es.length % 2 = 0 ∧ toNat es = toNat ds := by
    rw [length_chars]
    by_cases hodd : ds.length % 2 = 1
    · refine ⟨⟨'0', rfl⟩ :: ds, if_pos hodd, ?_, toNat_zero_cons rfl ds⟩
      rw [List.length_cons]
      omega
    · exact ⟨ds, if_neg hodd, by omega, rfl⟩
  have hdecode : decode (chars es) = .ok (toBytes es) :=
    decode_eq_ok_iff.2 ⟨none, es, rfl, heven, rfl⟩
  refine ⟨Bytes.stripZeros (toBytes es), ?_, Bytes.minimal_stripZeros _, ?_⟩
  · rw [minimalBytes, dropMarker_written, hes, hdecode]
    rfl
  · rw [Bytes.toNat_stripZeros, toNat_toBytes heven, hnumber]

end Hex

/-! ### What values denote -/

namespace Value

/-- **The number that a value denotes**: an integer denotes itself, bytes denote the number whose
digits to the base 256 they are, and a text denotes the number of its digits. -/
inductive Denotes : Value → Nat → Prop where
  | int (n : Nat) : Denotes (.int n) n
  | bytes (b : Bytes) : Denotes (.bytes b) b.toNat
  | text {s : String} {m : Option Hex.Marker} {ds : List Hex.Digit}
      (h : s.toList = Hex.written m ds) : Denotes (.text s) (Hex.toNat ds)

/-- **The bytes that a value spells**: bytes spell themselves, and a text spells the bytes of its
digits, two by two. -/
inductive Spells : Value → Bytes → Prop where
  | bytes (b : Bytes) : Spells (.bytes b) b
  | text {s : String} {m : Option Hex.Marker} {ds : List Hex.Digit}
      (h : s.toList = Hex.written m ds) (heven : ds.length % 2 = 0) :
      Spells (.text s) (Hex.toBytes ds)

theorem Denotes.unique {x : Value} {m n : Nat} (hm : x.Denotes m) (hn : x.Denotes n) : m = n := by
  cases hm with
  | int m => cases hn; rfl
  | bytes b => cases hn; rfl
  | text h =>
      cases hn with
      | text h' => rw [Hex.digits_of_written (h.symm.trans h')]

theorem Spells.unique {x : Value} {b c : Bytes} (hb : x.Spells b) (hc : x.Spells c) : b = c := by
  cases hb with
  | bytes b => cases hc; rfl
  | text h heven =>
      cases hc with
      | text h' heven' => rw [Hex.digits_of_written (h.symm.trans h')]

end Value

/-! ### Fields -/

theorem Address.toList_text (a : Address) :
    a.text.toList = Hex.written (some a.marker) a.digits := String.toList_ofList

theorem CallData.toList_text (data : Bytes) :
    (text data).toList = Hex.written (some .lower) (Hex.ofBytes data) := String.toList_ofList

/-- **A quantity is the number that its value denotes.** -/
theorem Quantity.denotes_of_read [Stack] {title : String} {x : Value} {q : Quantity}
    (h : read title x = .ok q) : x.Denotes q.toNat := by
  cases x with
  | text s =>
      simp only [read] at h
      split at h
      · next q' hq =>
          cases h
          obtain ⟨⟨m, ds⟩, hscan, rfl⟩ := Option.map_eq_some_iff.1 hq
          exact .text (Hex.scan_eq_some_iff.1 hscan).2
      · cases h
  | int z =>
      cases z with
      | ofNat n =>
          cases h
          rw [toNat_ofNat]
          exact .int n
      | negSucc n => cases h
  | _ => cases h

/-- A common field that is given is the number that its value denotes. -/
theorem Quantity.denotes_of_readOptional [Stack] {title : String} {x : Value} {q : Option Quantity}
    (h : readOptional title x = .ok q) (hx : x ≠ .none) : ∃ n, q = some n ∧ x.Denotes n.toNat := by
  have hread : (read title x).map some = .ok q := by
    cases x with
    | none => exact absurd rfl hx
    | _ => exact h
  obtain ⟨n, hn, rfl⟩ := Result.map_eq_ok.1 hread
  exact ⟨n, rfl, denotes_of_read hn⟩

/-- **An address has the bytes that its value spells.** -/
theorem Address.spells_of_read [Stack] {title : String} {x : Value} {a : Address}
    (h : read title x = .ok (some a)) : x.Spells a.toBytes := by
  cases x with
  | bytes b =>
      simp only [read] at h
      split at h
      · cases h
      · split at h
        · next ha =>
            cases h
            rw [toBytes_ofBytes? ha]
            exact .bytes b
        · cases h
  | text s =>
      simp only [read] at h
      split at h
      · cases h
      · split at h
        · next ha =>
            cases h
            unfold ofText? at ha
            split at ha
            · next m ds hscan =>
                split at ha
                · next hlength =>
                    cases ha
                    exact .text (Hex.scan_eq_some_iff.1 hscan).2
                      (by rw [hlength, Nat.mul_mod_right])
                · cases ha
            · cases ha
        · cases h
  | _ => cases h

/-- **Call data is the bytes that its value spells.** -/
theorem CallData.spells_of_read [Stack] {title : String} {x : Value} {b : Bytes}
    (h : read title x = .ok b) : x.Spells b := by
  cases x with
  | bytes c =>
      cases h
      exact .bytes b
  | text s =>
      simp only [read] at h
      split at h
      · cases h
      · next hscan =>
          split at h
          · cases h
          · next heven =>
              cases h
              exact .text (Hex.scan_eq_some_iff.1 hscan).2 (by omega)
  | _ => cases h

/-! ### Signatures -/

/-- The minimal bytes of an integer; zero, like whatever is false, has none. -/
theorem Value.minimalBytes_ofNat (n : Nat) : minimalBytes (.int n) = .ok (Bytes.ofNat n) := by
  simp only [minimalBytes, integerBytes]
  split
  · next hzero =>
      have hzero : n = 0 := by simpa [isZero, int?] using hzero
      rw [hzero, Bytes.ofNat_zero]
  · rfl

namespace Signature

/-- **A component of a signature** is the minimal spelling of the number that its value denotes. -/
theorem denotes_of_component [Stack] {title : String} {x : Value} {b : Bytes}
    (h : component title x = .ok b) : Bytes.Minimal b ∧ x.Denotes b.toNat := by
  obtain ⟨_, hcheck, hbytes⟩ := Result.bind_eq_ok.1 h
  cases x with
  | bytes c =>
      cases hbytes
      rw [Bytes.toNat_stripZeros]
      exact ⟨Bytes.minimal_stripZeros c, .bytes c⟩
  | text s =>
      simp only [Check.component, Check.hexText] at hcheck
      split at hcheck
      · next hscan =>
          obtain ⟨⟨m, ds⟩, hscan⟩ := Option.isSome_iff_exists.1 hscan
          have hs := (Hex.scan_eq_some_iff.1 hscan).2
          obtain ⟨c, hc, hminimal, hnumber⟩ := Hex.minimalBytes_written m ds
          rw [Value.minimalBytes, hs, hc] at hbytes
          cases hbytes
          rw [hnumber]
          exact ⟨hminimal, .text hs⟩
      · cases hcheck
  | int z =>
      cases z with
      | ofNat n =>
          have hn : Bytes.ofNat n = b :=
            Except.ok.inj ((Value.minimalBytes_ofNat n).symm.trans hbytes)
          rw [← hn, Bytes.toNat_ofNat]
          exact ⟨Bytes.minimal_ofNat n, .int n⟩
      | negSucc n =>
          simp only [Check.component, Check.unsigned, if_pos (Int.negSucc_lt_zero n)] at hcheck
          cases hcheck
  | _ => cases hcheck

/-- **The signature of three components** has minimal components, which are the numbers that the
three values denote. -/
theorem denotes_of_ofComponents [Stack] {v r s : Value} {sig : Signature}
    (h : ofComponents v r s = .ok sig) :
    sig.Minimal ∧ v.Denotes sig.v.toNat ∧ r.Denotes sig.r.toNat ∧ s.Denotes sig.s.toNat := by
  simp only [ofComponents, Result.bind_eq_ok] at h
  obtain ⟨bv, hv, br, hr, bs, hs, h⟩ := h
  cases h
  obtain ⟨hvMinimal, hv⟩ := denotes_of_component hv
  obtain ⟨hrMinimal, hr⟩ := denotes_of_component hr
  obtain ⟨hsMinimal, hs⟩ := denotes_of_component hs
  exact ⟨⟨hvMinimal, hrMinimal, hsMinimal⟩, hv, hr, hs⟩

end Signature

end PlainTx
