/-
**Payloads on the wire.**

A payload is a list of byte strings, so it inherits its laws from those of items.  The one thing to
add is what the reader of a payload makes of a list.  Where a number belongs it takes the empty list
for zero, which is written as the empty byte string; nowhere else does it accept a list.  So the
items it accepts become those of the payload when each empty list is replaced by an empty string,
and this is the only way in which two inputs can hold one payload.

Main definitions:

* `PlainTx.Rlp.Item.flattened` — an item with the empty string in place of the empty list;
* `PlainTx.Payload.strings` — the byte strings that are written for a payload.

Main results:

* `PlainTx.Payload.readNumber_eq_ok`, `PlainTx.Payload.readBody_eq_ok`,
  `PlainTx.Payload.readSigned_eq_ok` — **what each reader accepts**;
* `PlainTx.Payload.decodeSigned_encode` — a signed payload is read back from its encoding;
* `PlainTx.Payload.encode_injective`, `PlainTx.Payload.Body.items_injective` — payloads with one
  encoding have the same items, and bodies with the same items are equal.
-/

import PlainTx.Payload.Reader
import PlainTx.Proofs.Wire.Item

set_option relaxedAutoImplicit false
set_option autoImplicit false

namespace PlainTx

namespace Rlp

/-! ### Empty lists in place of empty strings -/

/-- An item with the empty byte string in place of the empty list. -/
def Item.flattened : Item → Item
  | .list [] => .bytes []
  | x => x

@[simp] theorem Item.flattened_bytes (b : Bytes) : (Item.bytes b).flattened = .bytes b := rfl

theorem Item.flattened_eq_bytes_iff {x : Item} {b : Bytes} :
    x.flattened = .bytes b ↔ x = .bytes b ∨ x = .list [] ∧ b = [] := by
  match x with
  | .bytes c => simp
  | .list [] => simp [flattened, eq_comm]
  | .list (y :: ys) => simp [flattened]

theorem Item.flattened_eq_self_iff {x : Item} : x.flattened = x ↔ x ≠ .list [] := by
  match x with
  | .bytes b => simp
  | .list [] => simp [flattened]
  | .list (y :: ys) => simp [flattened]

/-- The empty list and the empty byte string are written with one byte each. -/
theorem length_encode_flattened (x : Item) : (encode x.flattened).length = (encode x).length := by
  match x with
  | .bytes b => rfl
  | .list [] => rfl
  | .list (y :: ys) => rfl

theorem length_encodeAll_flattened (items : List Item) :
    (encodeAll (items.map Item.flattened)).length = (encodeAll items).length := by
  induction items with
  | nil => rfl
  | cons x xs ih =>
      rw [List.map_cons, encodeAll, encodeAll, List.length_append, List.length_append, ih,
        length_encode_flattened]

theorem allFit_flattened {items : List Item} (h : allFit items = true) :
    allFit (items.map Item.flattened) = true := by
  induction items with
  | nil => rfl
  | cons x xs ih =>
      obtain ⟨hx, hxs⟩ := allFit_cons.1 h
      refine allFit_cons.2 ⟨?_, ih hxs⟩
      match x with
      | .bytes b => exact hx
      | .list [] => rfl
      | .list (y :: ys) => exact hx

theorem fits_flattened {items : List Item} (h : fits (.list items) = true) :
    fits (.list (items.map Item.flattened)) = true := by
  obtain ⟨hall, hlen⟩ := fits_list.1 h
  exact fits_list.2 ⟨allFit_flattened hall, length_encodeAll_flattened items ▸ hlen⟩

end Rlp

namespace Payload

open Rlp (Item)

/-! ### Reading one field -/

theorem numberItem_injective {m n : Nat} (h : numberItem m = numberItem n) : m = n :=
  Bytes.ofNat_injective (Item.bytes.inj h)

/-- **A number is read from its minimal spelling, and zero also from the empty list.** -/
theorem readNumber_eq_ok {name : String} {x : Item} {n : Nat} :
    readNumber name x = .ok n ↔ x.flattened = numberItem n := by
  match x with
  | .bytes b =>
      rw [readNumber, Item.flattened_bytes, numberItem, Item.bytes.injEq]
      constructor
      · intro h
        split at h
        · cases h
        · next hmin =>
            cases h
            exact (Bytes.ofNat_toNat hmin).symm
      · rintro rfl
        rw [if_neg (Bytes.minimal_ofNat n), Bytes.toNat_ofNat]
  | .list [] =>
      simp only [readNumber, Item.flattened, numberItem, Except.ok.injEq, Item.bytes.injEq]
      rw [eq_comm (b := Bytes.ofNat n), Bytes.ofNat_eq_nil_iff, eq_comm]
  | .list (.bytes b :: xs) => simp [readNumber, Item.flattened, numberItem]
  | .list (.list ys :: xs) => simp [readNumber, Item.flattened, numberItem]

theorem readBytes_eq_ok {name : String} {x : Item} {b : Bytes} :
    readBytes name x = .ok b ↔ x = .bytes b := by
  cases x with
  | bytes c => simp [readBytes]
  | list items => simp [readBytes]

theorem readAddress_eq_ok {name : String} {x : Item} {b : Bytes} :
    readAddress name x = .ok b ↔
      x = .bytes b ∧ (b.length = Format.addressSize ∨ b = []) := by
  rw [readAddress, Result.bind_eq_ok]
  constructor
  · rintro ⟨c, hc, h⟩
    split at h
    · next hlen =>
        cases h
        exact ⟨readBytes_eq_ok.1 hc, hlen⟩
    · cases h
  · rintro ⟨hx, hlen⟩
    exact ⟨b, readBytes_eq_ok.2 hx, if_pos hlen⟩

/-! ### Reading all fields -/

/-- **What the reader of the body accepts.** -/
theorem readBody_eq_ok {nonce gasPrice gas recipient value data : Item} {body : Body} :
    readBody nonce gasPrice gas recipient value data = .ok body ↔
      nonce.flattened = numberItem body.nonce ∧ gasPrice.flattened = numberItem body.gasPrice ∧
      gas.flattened = numberItem body.gas ∧
      (recipient = .bytes body.recipient ∧
        (body.recipient.length = Format.addressSize ∨ body.recipient = [])) ∧
      value.flattened = numberItem body.value ∧ data = .bytes body.data := by
  simp only [readBody, Result.bind_eq_ok, Result.pure_eq_ok, readNumber_eq_ok, readAddress_eq_ok,
    readBytes_eq_ok]
  constructor
  · rintro ⟨_, hn, _, hp, _, hg, _, hr, _, hv, _, hd, h⟩
    cases h
    exact ⟨hn, hp, hg, hr, hv, hd⟩
  · rintro ⟨hn, hp, hg, hr, hv, hd⟩
    exact ⟨_, hn, _, hp, _, hg, _, hr, _, hv, _, hd, rfl⟩

/-- **What the reader of a signed payload accepts**: items that are those of the payload once each
empty list is replaced by an empty string, as long as neither the recipient nor the data is a list
and the recipient has the right length. -/
theorem readSigned_eq_ok {xs : List Item} {body : Body} {v r s : Nat} :
    readSigned xs = .ok (body, v, r, s) ↔
      xs.map Item.flattened = (Payload.signed body v r s).items ∧
      xs[3]? ≠ some (.list []) ∧ xs[5]? ≠ some (.list []) ∧
      (body.recipient.length = Format.addressSize ∨ body.recipient = []) := by
  constructor
  · intro h
    unfold readSigned at h
    split at h
    · simp only [Result.bind_eq_ok, Result.pure_eq_ok, readNumber_eq_ok, readBody_eq_ok] at h
      obtain ⟨_, ⟨hn, hp, hg, ⟨rfl, hlen⟩, hval, rfl⟩, _, hv, _, hr, _, hs, h⟩ := h
      cases h
      refine ⟨?_, by simp, by simp, hlen⟩
      simp only [items, Body.items, List.map_cons, List.map_nil, List.cons_append,
        List.nil_append, hn, hp, hg, hval, hv, hr, hs, Item.flattened_bytes]
    · cases h
  · rintro ⟨h, h3, h5, hlen⟩
    simp only [items, Body.items, List.cons_append, List.nil_append, List.map_eq_cons_iff,
      List.map_eq_nil_iff] at h
    obtain ⟨nonce, _, rfl, hn, gasPrice, _, rfl, hp, gas, _, rfl, hg, recipient, _, rfl, hrec,
      value, _, rfl, hval, data, _, rfl, hd, vItem, _, rfl, hv, rItem, _, rfl, hr, sItem, _, rfl,
      hs, rfl⟩ := h
    -- of the two items that flatten to a string, the empty list is excluded in these places
    have hrec : recipient = .bytes body.recipient :=
      (Item.flattened_eq_bytes_iff.1 hrec).resolve_right fun h => h3 (by simp [h.1])
    have hd : data = .bytes body.data :=
      (Item.flattened_eq_bytes_iff.1 hd).resolve_right fun h => h5 (by simp [h.1])
    simp only [readSigned, Result.bind_eq_ok, Result.pure_eq_ok, readNumber_eq_ok, readBody_eq_ok]
    exact ⟨body, ⟨hn, hp, hg, ⟨hrec, hlen⟩, hval, hd⟩, _, hv, _, hr, _, hs, rfl⟩

/-- The inputs that hold a signed payload. -/
theorem decodeSigned_eq_ok [Stack] {b : Bytes} {body : Body} {v r s : Nat} :
    decodeSigned b = .ok (body, v, r, s) ↔
      ∃ xs, Rlp.decode b = .ok (.list xs) ∧ readSigned xs = .ok (body, v, r, s) := by
  rw [decodeSigned, Result.bind_eq_ok]
  constructor
  · rintro ⟨xs, hxs, h⟩
    refine ⟨xs, ?_, h⟩
    unfold listItems at hxs
    split at hxs
    · cases hxs
    · cases hxs
    · next hdecode =>
        cases hxs
        exact hdecode
  · rintro ⟨xs, hdecode, h⟩
    exact ⟨xs, by rw [listItems, hdecode], h⟩

/-! ### Writing and reading a payload -/

/-- The byte strings that are written for a body. -/
def Body.strings (b : Body) : List Bytes :=
  [.ofNat b.nonce, .ofNat b.gasPrice, .ofNat b.gas, b.recipient, .ofNat b.value, b.data]

/-- The byte strings that are written for a payload. -/
def strings : Payload → List Bytes
  | .unsigned body => body.strings
  | .signing body chainId rMark sMark =>
    body.strings ++ [.ofNat chainId, .ofNat rMark, .ofNat sMark]
  | .signed body v r s => body.strings ++ [.ofNat v, .ofNat r, .ofNat s]

/-- **The items of a payload are byte strings.** -/
theorem items_eq_strings (p : Payload) : p.items = p.strings.map .bytes := by
  cases p <;> rfl

/-- A payload has one level of items inside. -/
theorem depth_items (p : Payload) : Rlp.depth (.list p.items) = 2 := by
  cases p <;> rfl

theorem flattened_items (p : Payload) : p.items.map Item.flattened = p.items := by
  cases p <;> rfl

/-- The encoding of a payload is read as the list of its items. -/
theorem decode_encode_items [Stack] {p : Payload} (hfits : p.fits = true) :
    Rlp.decode p.encode = .ok (.list p.items) := by
  refine Rlp.decode_eq_ok_iff.2 ⟨rfl, hfits, ?_⟩
  rw [depth_items]
  exact Stack.two_le_reading

/-- **A signed payload is read back from its encoding.** -/
theorem decodeSigned_encode [Stack] {body : Body} {v r s : Nat}
    (hfits : (Payload.signed body v r s).fits = true)
    (hlen : body.recipient.length = Format.addressSize) :
    decodeSigned (Payload.signed body v r s).encode = .ok (body, v, r, s) := by
  refine decodeSigned_eq_ok.2 ⟨_, decode_encode_items hfits, ?_⟩
  refine readSigned_eq_ok.2 ⟨flattened_items _, ?_, ?_, .inl hlen⟩
  · simp [items, Body.items]
  · simp [items, Body.items]

/-- **Payloads with one encoding have the same items.** -/
theorem encode_injective {p q : Payload} (hp : p.fits = true) (hq : q.fits = true)
    (h : p.encode = q.encode) : p.items = q.items :=
  Item.list.inj (Rlp.encode_injective hp hq h)

/-- Bodies with the same items are equal. -/
theorem Body.items_injective {a b : Body} (h : a.items = b.items) : a = b := by
  obtain ⟨nonce, gasPrice, gas, recipient, value, data⟩ := a
  simp only [Body.items, List.cons.injEq, Item.bytes.injEq, and_true] at h
  obtain ⟨hn, hp, hg, rfl, hv, rfl⟩ := h
  rw [numberItem_injective hn, numberItem_injective hp, numberItem_injective hg,
    numberItem_injective hv]

end Payload

end PlainTx
