/-
**The markers of stored texts.**

Recipient, value and common fields are stored as texts of digits behind a marker, and call data as
a text in lower case.  Whoever makes a transaction may spell its fields with either marker or with
none.  Call data always gets the lower-case marker, and so does what is given as a number, as bytes
or without a marker; but a text of another field keeps the marker that it was given with.  So all
stored texts have the lower-case marker exactly if no field was given with the other one, whichever
way the transaction was made, and however often it was copied since.

Main definitions:

* `PlainTx.Hex.Marked` — a text is some digits behind a marker;
* `PlainTx.Value.marker` — the marker that a value is spelled with;
* `PlainTx.Transaction.Made` — how a transaction is made, and the values given for its fields;
* `PlainTx.Transaction.MarkedBy` — the form of the stored texts, with a marker for each field.

Main results:

* `PlainTx.Quantity.marker_of_read`, `PlainTx.Address.marker_of_read` — fields keep their marker;
* `PlainTx.Transaction.marker_of_made` — **so does a transaction**, from its making on;
* `PlainTx.Transaction.marked_of_made` — **the stored texts of a transaction**;
* `PlainTx.Transaction.upperTransfer_not_lower` — a stored text with the other marker.
-/

import PlainTx.Proofs.Building
import PlainTx.Proofs.Lifecycle

set_option relaxedAutoImplicit false
set_option autoImplicit false

namespace PlainTx

/-! ### Marked texts -/

/-- The text is some digits behind a marker. -/
def Hex.Marked (m : Marker) (s : String) : Prop := ∃ ds, s.toList = m.chars ++ chars ds

/-- The marker that a value is spelled with: the one in front of a text, and the lower-case one
where there is none. -/
def Value.marker : Value → Hex.Marker
  | .text s => (Hex.splitMarker s.toList).1.getD .lower
  | _ => .lower

/-- A text that is marked is spelled with its marker. -/
theorem Hex.Marked.marker_text {m : Marker} {s : String} (h : Marked m s) :
    (Value.text s).marker = m := by
  obtain ⟨ds, hds⟩ := h
  rw [Value.marker, hds, splitMarker_chars_append]
  rfl

theorem Quantity.marked_text (q : Quantity) : Hex.Marked q.marker q.text :=
  ⟨q.digits, String.toList_ofList⟩

theorem Address.marked_text (a : Address) : Hex.Marked a.marker a.text :=
  ⟨a.digits, String.toList_ofList⟩

/-! ### Fields keep their marker -/

/-- **A quantity keeps the marker that it is given with.** -/
theorem Quantity.marker_of_read [Stack] {title : String} {x : Value} {q : Quantity}
    (h : read title x = .ok q) : q.marker = x.marker := by
  cases x with
  | text s =>
      simp only [read] at h
      split at h
      · next hq =>
          cases h
          obtain ⟨⟨m, ds⟩, hscan, rfl⟩ := Option.map_eq_some_iff.1 hq
          rw [Value.marker, (Hex.scan_eq_some_iff.1 hscan).2, Hex.splitMarker_written]
      · cases h
  | int z =>
      cases z with
      | ofNat n => cases h; rfl
      | negSucc n => cases h
  | _ => cases h

/-- A common field keeps the marker that it is given with, if it is given. -/
theorem Quantity.marker_of_readOptional [Stack] {title : String} {x : Value} {q : Option Quantity}
    (h : readOptional title x = .ok q) : (optionalValue q).marker = x.marker := by
  by_cases hnone : x = .none
  · subst hnone
    cases h
    rfl
  · have hread : (read title x).map some = .ok q := by
      cases x with
      | none => exact absurd rfl hnone
      | _ => exact h
    obtain ⟨n, hn, rfl⟩ := Result.map_eq_ok.1 hread
    exact n.marked_text.marker_text.trans (marker_of_read hn)

/-- The address of bytes has the lower-case marker. -/
theorem Address.marker_of_ofBytes? {b : Bytes} {a : Address} (h : ofBytes? b = some a) :
    a.marker = .lower := by
  unfold ofBytes? at h
  split at h
  · cases h
    rfl
  · cases h

/-- The address of a text has the marker of the text. -/
theorem Address.marker_of_ofText? {s : String} {a : Address} (h : ofText? s = some a) :
    a.marker = (Value.text s).marker := by
  unfold ofText? at h
  split at h
  · next m ds hscan =>
      split at h
      · cases h
        rw [Value.marker, (Hex.scan_eq_some_iff.1 hscan).2, Hex.splitMarker_written]
      · cases h
  · cases h

/-- **An address keeps the marker that it is given with.** -/
theorem Address.marker_of_read [Stack] {title : String} {x : Value} {a : Address}
    (h : read title x = .ok (some a)) : a.marker = x.marker := by
  cases x with
  | bytes b =>
      simp only [read] at h
      split at h
      · cases h
      · split at h
        · next ha =>
            cases h
            exact marker_of_ofBytes? ha
        · cases h
  | text s =>
      simp only [read] at h
      split at h
      · cases h
      · split at h
        · next ha =>
            cases h
            exact marker_of_ofText? ha
        · cases h
  | _ => cases h

/-! ### How a transaction is made -/

open Builder (Field)

/-- The fields whose texts keep the marker that they are given with. -/
def Builder.Field.keepsMarker : Field → Bool
  | .input | .signatures | .policy => false
  | _ => true

/-- The values that the setters of a builder took last. -/
inductive Builder.Given [Stack] : Builder → (Field → Option Value) → Prop
  | new : Given {} fun _ => none
  | set {b c : Builder} {given : Field → Option Value} {field : Field} {x : Value}
      (h : b.Given given) (hset : b.set field x = .ok c) : Given c (give given field x)

theorem Builder.Given.collected [Stack] {b : Builder} {given : Field → Option Value}
    (h : b.Given given) : b.Collected given := by
  induction h with
  | new => exact collected_new
  | set _ hset ih => exact collected_set ih hset

namespace Transaction

variable {t u : Transaction} {given : Field → Option Value} {setting : Option String}

/-- **How a transaction is made**, and which values are given for its fields: it is created from
named values, built, read, or copied with some values exchanged; and operations on it change nothing
but its slot. -/
inductive Made [Stack] : Transaction → (Field → Option Value) → Prop
  | create {setting : Option String} {fields : List (String × Value)} {a : Arguments}
      {t : Transaction} (ha : Arguments.ofFields fields = .ok a) (h : create setting a = .ok t) :
      Made t fun field => fields.lookup field.name
  | build {setting : Option String} {b : Builder} {given : Field → Option Value} {t : Transaction}
      (hb : b.Given given) (h : b.build setting = .ok t) : Made t given
  | decode {setting : Option String} {policy : Option Policy} {x : Value} {t : Transaction}
      (h : decodeWith setting policy x = .ok t) : Made t fun _ => none
  | copy {setting : Option String} {overrides : List (String × Value)} {t u : Transaction}
      {given : Field → Option Value} (ht : t.Made given) (h : t.copy setting overrides = .ok u) :
      Made u fun field => (overrides.lookup field.name).or (given field)
  | operate {t u : Transaction} {given : Field → Option Value} (ht : t.Made given)
      (h : t.Reaches u) : Made u given

/-- The value that a field of a transaction is stored as. -/
def stored (t : Transaction) (field : Field) : Value := (t.fields.lookup field.name).getD .none

/-- What is created from named values keeps their markers. -/
theorem marker_of_create [Stack] {fields : List (String × Value)} {a : Arguments}
    (ha : Arguments.ofFields fields = .ok a) (h : create setting a = .ok t) {field : Field}
    (hfield : field.keepsMarker = true) :
    (t.stored field).marker = ((fields.lookup field.name).getD .none).marker := by
  obtain ⟨x, y, policy, hx, hy, hpolicy, rfl⟩ := Arguments.exists_of_ofFields ha
  obtain ⟨recipient, value, input, common, hrecipient, hvalue, _, hcommon, h⟩ :=
    create_eq_ok_iff.1 h
  obtain ⟨slot, rfl, _⟩ := exists_slot_of_assemble h
  obtain ⟨hnonce, hgasPrice, hgas, hchainId⟩ := CommonFields.read_eq_ok_iff.1 hcommon
  cases field with
  | recipient =>
      rw [Field.name, hx]
      exact recipient.marked_text.marker_text.trans (Address.marker_of_read hrecipient)
  | value =>
      rw [Field.name, hy]
      exact value.marked_text.marker_text.trans (Quantity.marker_of_read hvalue)
  | nonce => exact Quantity.marker_of_readOptional hnonce
  | gas => exact Quantity.marker_of_readOptional hgas
  | gasPrice => exact Quantity.marker_of_readOptional hgasPrice
  | chainId => exact Quantity.marker_of_readOptional hchainId
  | input | signatures | policy => cases hfield

/-- What is read has the lower-case marker everywhere. -/
theorem marker_of_decode [Stack] {policy : Policy} {x : Value} (h : decode policy x = .ok t)
    {field : Field} (hfield : field.keepsMarker = true) : (t.stored field).marker = .lower := by
  obtain ⟨_, body, v, r, s, recipient, _, _, hrecipient, rfl⟩ := decode_eq_ok_iff.1 h
  have hnumber : ∀ n, (Quantity.ofNat n).value.marker = .lower := fun n =>
    (Quantity.ofNat n).marked_text.marker_text
  cases field with
  | recipient =>
      exact recipient.marked_text.marker_text.trans (Address.marker_of_ofBytes? hrecipient)
  | value | nonce | gas | gasPrice => exact hnumber _
  | chainId =>
      -- the chain id is a number, or unset
      have hstored : (ofParts policy recipient body v r s).stored .chainId =
          Quantity.optionalValue ((RecoveryId.chain? v).map .ofNat) := rfl
      rw [hstored]
      cases RecoveryId.chain? v with
      | none => rfl
      | some chain => exact hnumber chain
  | input | signatures | policy => cases hfield

/-- **A transaction keeps the markers of the values that were given for its fields.**  The induction
is on the way it was made. -/
theorem marker_of_made [Stack] (h : t.Made given) {field : Field}
    (hfield : field.keepsMarker = true) :
    (t.stored field).marker = ((given field).getD .none).marker := by
  induction h with
  | create ha h => exact marker_of_create ha h hfield
  | @build setting b given t hb h =>
      rw [Builder.build_of_collected hb.collected, Builder.createGiven] at h
      split at h
      · cases h
      · cases h
      · obtain ⟨a, ha, h⟩ := Result.bind_eq_ok.1 h
        rw [marker_of_create ha h hfield, Builder.lookup_named]
  | decode h =>
      obtain ⟨p, hp⟩ := exists_policy_of_decodeWith h
      exact marker_of_decode (hp _ ▸ h) hfield
  | @copy setting overrides t u given _ h ih =>
      simp only [copy] at h
      split at h
      · obtain ⟨a, ha, h⟩ := Result.bind_eq_ok.1 h
        rw [marker_of_create ha h hfield, List.lookup_append]
        -- what is not exchanged is given as it is stored
        dsimp only
        cases overrides.lookup field.name with
        | none => exact ih
        | some x => rfl
      · cases h
  | operate _ h ih =>
      obtain ⟨slot, _, rfl⟩ := h
      refine Eq.trans ?_ ih
      cases field with
      | input | signatures | policy => cases hfield
      | _ => rfl

/-! ### Stored texts -/

/-- **The form of the stored texts**, with a marker for each field: forty digits for the recipient,
any digits for the value and the common fields that are set, and for the call data, behind the
lower-case marker, an even number of digits in lower case. -/
structure MarkedBy (t : Transaction) (m : Field → Hex.Marker) : Prop where
  recipient : ∃ ds, t.recipient.text.toList = (m .recipient).chars ++ Hex.chars ds ∧ ds.length = 40
  value : Hex.Marked (m .value) t.value.text
  nonce : ∀ q, t.common.nonce = some q → Hex.Marked (m .nonce) q.text
  gasPrice : ∀ q, t.common.gasPrice = some q → Hex.Marked (m .gasPrice) q.text
  gas : ∀ q, t.common.gas = some q → Hex.Marked (m .gas) q.text
  chainId : ∀ q, t.common.chainId = some q → Hex.Marked (m .chainId) q.text
  input : ∃ ds, (CallData.text t.input).toList = Hex.Marker.lower.chars ++ Hex.chars ds ∧
    ds.length % 2 = 0 ∧ ∀ d ∈ ds, d.lowerCase = d

end Transaction

/-- The digits of bytes are in lower case. -/
theorem Hex.lowerCase_of_mem_ofBytes {b : Bytes} {d : Digit} (h : d ∈ ofBytes b) :
    d.lowerCase = d := by
  have hlast : ∀ n, (lastDigit n).lowerCase = lastDigit n := by
    intro n
    simp only [lastDigit, Digit.lowerCase, Digit.value_ofFin]
  obtain ⟨x, _, hd⟩ := List.mem_flatMap.1 h
  simp only [byteDigits, List.mem_cons, List.not_mem_nil, or_false] at hd
  rcases hd with rfl | rfl
  · exact hlast _
  · exact hlast _

namespace Transaction

variable {t u : Transaction} {given : Field → Option Value} {setting : Option String}

/-- A transaction has the form of its texts with the markers that are stored. -/
theorem markedBy_stored (t : Transaction) : t.MarkedBy fun field => (t.stored field).marker := by
  have hquantity : ∀ q : Quantity, Hex.Marked q.value.marker q.text := fun q =>
    q.marked_text.marker_text.symm ▸ q.marked_text
  have hcommon : ∀ (o : Option Quantity) (q : Quantity), o = some q →
      Hex.Marked (Quantity.optionalValue o).marker q.text := by
    rintro _ q rfl
    exact hquantity q
  have hrecipient : (t.stored .recipient).marker = t.recipient.marker :=
    t.recipient.marked_text.marker_text
  refine ⟨?_, hquantity t.value, hcommon _, hcommon _, hcommon _, hcommon _, ?_⟩
  · rw [hrecipient]
    exact ⟨t.recipient.digits, String.toList_ofList, t.recipient.length_digits⟩
  · refine ⟨Hex.ofBytes t.input, String.toList_ofList, ?_, fun d => Hex.lowerCase_of_mem_ofBytes⟩
    rw [Hex.length_ofBytes, Nat.mul_mod_right]

/-- Only the fields that keep their marker count. -/
theorem MarkedBy.congr {m m' : Field → Hex.Marker} (h : t.MarkedBy m)
    (hm : ∀ field : Field, field.keepsMarker = true → m field = m' field) : t.MarkedBy m' where
  recipient := hm .recipient rfl ▸ h.recipient
  value := hm .value rfl ▸ h.value
  nonce := hm .nonce rfl ▸ h.nonce
  gasPrice := hm .gasPrice rfl ▸ h.gasPrice
  gas := hm .gas rfl ▸ h.gas
  chainId := hm .chainId rfl ▸ h.chainId
  input := h.input

/-- The texts tell the markers, and what is not set counts as lower-case. -/
theorem MarkedBy.marker_stored (h : t.MarkedBy fun _ => .lower) {field : Field}
    (hfield : field.keepsMarker = true) : (t.stored field).marker = .lower := by
  have hcommon : ∀ o : Option Quantity, (∀ q, o = some q → Hex.Marked .lower q.text) →
      (Quantity.optionalValue o).marker = .lower := by
    intro o ho
    cases o with
    | none => rfl
    | some q => exact (ho q rfl).marker_text
  cases field with
  | recipient =>
      obtain ⟨ds, hds, _⟩ := h.recipient
      exact Hex.Marked.marker_text ⟨ds, hds⟩
  | value => exact h.value.marker_text
  | nonce => exact hcommon t.common.nonce h.nonce
  | gas => exact hcommon t.common.gas h.gas
  | gasPrice => exact hcommon t.common.gasPrice h.gasPrice
  | chainId => exact hcommon t.common.chainId h.chainId
  | input | signatures | policy => cases hfield

/-- **The stored texts of a transaction** have the markers that its fields were given with, so all
of them have the lower-case marker exactly if no field was given with the other one. -/
theorem marked_of_made [Stack] (h : t.Made given) :
    t.MarkedBy (fun field => ((given field).getD .none).marker) ∧
    (t.MarkedBy (fun _ => .lower) ↔
      ∀ field : Field, field.keepsMarker = true → ((given field).getD .none).marker = .lower) := by
  have hmarked : t.MarkedBy fun field => ((given field).getD .none).marker :=
    t.markedBy_stored.congr fun field hfield => marker_of_made h hfield
  refine ⟨hmarked, fun hlower field hfield => ?_, fun hgiven => hmarked.congr hgiven⟩
  rw [← marker_of_made h hfield]
  exact hlower.marker_stored hfield

/-! ### The other marker -/

/-- The named values of a transfer, of which the amount is spelled with the other marker. -/
def upperFields : List (String × Value) :=
  [("to", .bytes (List.replicate 20 0x11)), ("value", .text "0X3")]

/-- The transfer that is created from them. -/
def upperTransfer : Transaction where
  recipient := ⟨.lower, Hex.ofBytes (List.replicate 20 0x11), rfl⟩
  value := ⟨.upper, [Hex.lastDigit 3]⟩
  input := []
  common := {}
  slot := .forTransaction .replaceEmpty

theorem made_of_upperFields [Stack] :
    upperTransfer.Made fun field => upperFields.lookup field.name := by
  have hmade : (Arguments.ofFields upperFields >>= create none) = .ok upperTransfer := rfl
  obtain ⟨a, ha, h⟩ := Result.bind_eq_ok.1 hmade
  exact .create ha h

open scoped Stack.Usual

theorem marked_of_made_upperTransfer :
    upperTransfer.Made (fun field => upperFields.lookup field.name) ∧
    upperTransfer.MarkedBy (fun field => ((upperFields.lookup field.name).getD .none).marker) :=
  ⟨made_of_upperFields, (marked_of_made made_of_upperFields).1⟩

/-- **A text keeps the other marker**: what is given as `0X3` is stored as `0X3`. -/
theorem upperTransfer_not_lower :
    upperTransfer.Made (fun field => upperFields.lookup field.name) ∧
    upperTransfer.value.text = "0X3" ∧ ¬ upperTransfer.MarkedBy fun _ => .lower := by
  refine ⟨made_of_upperFields, rfl, fun h => ?_⟩
  have hmarker : Hex.Marker.upper = .lower := h.value.marker_text
  cases hmarker

end Transaction

end PlainTx
