/-
**How far writing undoes reading.**

The reader of signed forms is strict: it refuses every length and every number that is not written
in the shortest way, and everything behind the form.  One laxity is left.  Where a number belongs,
an empty list is read as zero, which is written as the empty byte string.  So an input is the signed
form of the transaction that is read from it exactly if no list stands among its fields; otherwise
the transaction has another form, and another hash.

Main definitions:

* `PlainTx.Payload.ListFree` — no list stands where a field belongs.

Main results:

* `PlainTx.Transaction.exists_items_of_decode` — what an input that is read consists of;
* `PlainTx.Transaction.encode_decode` — **writing undoes reading exactly where no list stands**;
* `PlainTx.Transaction.decode_listForNonce` — an input that is read and is not written again.
-/

import PlainTx.Proofs.Decoding
import PlainTx.Proofs.Operations

set_option relaxedAutoImplicit false
set_option autoImplicit false

namespace PlainTx

open Rlp (Item)

/-! ### Lists among the fields -/

theorem Rlp.map_flattened_eq_self_iff {items : List Item} :
    items.map Item.flattened = items ↔ ∀ x ∈ items, x ≠ .list [] := by
  induction items with
  | nil => simp
  | cons x xs ih =>
      rw [List.map_cons, List.cons.injEq, ih, Item.flattened_eq_self_iff, List.forall_mem_cons]

namespace Payload

/-- No list stands where a field belongs. -/
def ListFree [Stack] (b : Bytes) : Prop :=
  ∀ items, Rlp.decode b = .ok (.list items) → ∀ x ∈ items, ∃ c, x = .bytes c

/-- An item that is read as a field is a byte string or the empty list. -/
theorem eq_bytes_or_eq_nil {xs : List Item} {p : Payload}
    (h : xs.map Item.flattened = p.items) {x : Item} (hx : x ∈ xs) :
    (∃ c, x = .bytes c) ∨ x = .list [] := by
  have hmem : x.flattened ∈ p.strings.map .bytes :=
    items_eq_strings p ▸ h ▸ List.mem_map_of_mem hx
  obtain ⟨c, _, hc⟩ := List.mem_map.1 hmem
  rcases Item.flattened_eq_bytes_iff.1 hc.symm with hx | ⟨hx, _⟩
  · exact .inl ⟨c, hx⟩
  · exact .inr hx

end Payload

namespace Transaction

/-! ### What an input that is read consists of -/

section

variable [Stack]

/-- What an input that is read consists of, and how the transaction is written: the same items,
with an empty string in place of each empty list, from which it is read as well. -/
theorem exists_items_of_decode {p : Policy} {b : Bytes} {t : Transaction}
    (h : decode p (.bytes b) = .ok t) :
    ∃ items payload, Rlp.decode b = .ok (.list items) ∧
      items.map Item.flattened = Payload.items payload ∧
      items[3]? ≠ some (.list []) ∧ items[5]? ≠ some (.list []) ∧ payload.fits = true ∧
      t.signedForm = .ok payload.encode ∧ decode p (.bytes payload.encode) = .ok t := by
  obtain ⟨_, body, v, r, s, recipient, hinput, hread, hrecipient, rfl⟩ := decode_eq_ok_iff.1 h
  cases hinput
  obtain ⟨items, hdecode, hfields⟩ := Payload.decodeSigned_eq_ok.1 hread
  obtain ⟨hitems, h3, h5, _⟩ := Payload.readSigned_eq_ok.1 hfields
  have hfits : (Payload.signed body v r s).fits = true := by
    rw [Payload.fits, ← hitems]
    exact Rlp.fits_flattened (Rlp.decode_eq_ok_iff.1 hdecode).2.1
  have hbytes := Address.toBytes_ofBytes? hrecipient
  have hlen : body.recipient.length = Format.addressSize := hbytes ▸ recipient.length_toBytes
  refine ⟨items, _, hdecode, hitems, h3, h5, hfits, ?_, ?_⟩
  · rw [signedForm_ofParts hbytes]
    exact Payload.write_eq_ok_iff.2 ⟨hfits, rfl⟩
  · exact decode_eq_ok_iff.2
      ⟨_, body, v, r, s, recipient, rfl, Payload.decodeSigned_encode hfits hlen, hrecipient, rfl⟩

/-- No list stands in an input that is read exactly if it is written again. -/
theorem listFree_iff_of_items {b : Bytes} {items : List Item} {p : Payload}
    (hdecode : Rlp.decode b = .ok (.list items)) (hitems : items.map Item.flattened = p.items)
    (hfits : p.fits = true) : Payload.ListFree b ↔ p.encode = b := by
  obtain ⟨rfl, hfitsItems, _⟩ := Rlp.decode_eq_ok_iff.1 hdecode
  -- encodings are injective, so the input is written again if flattening changes nothing
  have hself : p.encode = Rlp.encode (.list items) ↔ ∀ x ∈ items, x ≠ .list [] := by
    rw [← Rlp.map_flattened_eq_self_iff, hitems]
    constructor
    · intro h
      exact Item.list.inj (Rlp.encode_injective hfits hfitsItems h)
    · intro h
      rw [Payload.encode, h]
  rw [hself]
  constructor
  · intro hfree x hx hnil
    obtain ⟨c, hc⟩ := hfree items hdecode x hx
    rw [hc] at hnil
    cases hnil
  · intro hne items' hdecode' x hx
    rw [hdecode] at hdecode'
    cases hdecode'
    exact (Payload.eq_bytes_or_eq_nil hitems hx).resolve_right (hne x hx)

/-! ### The empty list and the empty string -/

/-- The items of a signed form, with the given one for the nonce. -/
def itemsWithNonce (nonce : Item) : List Item :=
  [nonce, .bytes [1], .bytes [2], .bytes (List.replicate 20 0xFF), .bytes [3], .bytes [],
    .bytes [4], .bytes [5], .bytes [6]]

/-- A signed form with the empty list for the nonce. -/
def listForNonce : Bytes :=
  [0xDD, 0xC0, 0x01, 0x02, 0x94] ++ List.replicate 20 0xFF ++ [0x03, 0x80, 0x04, 0x05, 0x06]

/-- The signed form with the nonce zero, as it is written. -/
def stringForNonce : Bytes :=
  [0xDD, 0x80, 0x01, 0x02, 0x94] ++ List.replicate 20 0xFF ++ [0x03, 0x80, 0x04, 0x05, 0x06]

theorem decode_items_listForNonce :
    Rlp.decode listForNonce = .ok (.list (itemsWithNonce (.list []))) :=
  Rlp.decode_eq_ok_iff.2 ⟨by decide, by decide, Stack.two_le_reading⟩

theorem decode_items_stringForNonce :
    Rlp.decode stringForNonce = .ok (.list (itemsWithNonce (.bytes []))) :=
  Rlp.decode_eq_ok_iff.2 ⟨by decide, by decide, Stack.two_le_reading⟩

theorem listFree_stringForNonce : Payload.ListFree stringForNonce := by
  intro items hdecode x hx
  rw [decode_items_stringForNonce] at hdecode
  cases hdecode
  have hmap : itemsWithNonce (.bytes []) = List.map Item.bytes
      [[], [1], [2], List.replicate 20 0xFF, [3], [], [4], [5], [6]] := rfl
  obtain ⟨c, _, hc⟩ := List.mem_map.1 (hmap ▸ hx)
  exact ⟨c, hc.symm⟩

/-- The body that both forms are read as. -/
def bodyForNonce : Payload.Body := ⟨0, 1, 2, List.replicate 20 0xFF, 3, []⟩

/-- Both forms are read, and as the same transaction. -/
theorem exists_decode_nonceForms (p : Policy) :
    ∃ t, decode p (.bytes listForNonce) = .ok t ∧ decode p (.bytes stringForNonce) = .ok t := by
  have hlen : bodyForNonce.recipient.length = Format.addressSize := List.length_replicate
  obtain ⟨recipient, hrecipient, _⟩ := Address.exists_ofBytes? hlen
  have hlist : Payload.decodeSigned listForNonce = .ok (bodyForNonce, 4, 5, 6) :=
    Payload.decodeSigned_eq_ok.2 ⟨_, decode_items_listForNonce, rfl⟩
  have hstring : Payload.decodeSigned stringForNonce = .ok (bodyForNonce, 4, 5, 6) :=
    Payload.decodeSigned_eq_ok.2 ⟨_, decode_items_stringForNonce, rfl⟩
  exact ⟨_, decode_eq_ok_iff.2 ⟨_, _, _, _, _, recipient, rfl, hlist, hrecipient, rfl⟩,
    decode_eq_ok_iff.2 ⟨_, _, _, _, _, recipient, rfl, hstring, hrecipient, rfl⟩⟩

/-! ### Writing what was read -/

/-- **Writing undoes reading exactly where no list stands among the fields.**  The lists that are
accepted are empty and stand where a number belongs; what is written is read as the same
transaction. -/
theorem encode_decode {setting : Option String} {policy : Option Policy} {b : Bytes}
    {t : Transaction} (h : decodeWith setting policy (.bytes b) = .ok t) :
    (∃ form, (encode t).result = .ok form ∧ Payload.ListFree form ∧
        decodeWith setting policy (.bytes form) = .ok t) ∧
      ((encode t).result = .ok b ↔ Payload.ListFree b) ∧
      (Payload.ListFree b →
        (get .transactionHash t).result = .ok (.text (Hex.text (keccak256 b)))) ∧
      (∀ setting' policy' c u, decodeWith setting' policy' (.bytes c) = .ok u →
        Payload.ListFree b → Payload.ListFree c → (encode t).result = (encode u).result → b = c) ∧
      ∀ items i ys, Rlp.decode b = .ok (.list items) → items[i]? = some (.list ys) →
        ys = [] ∧ i ≠ 3 ∧ i ≠ 5 := by
  obtain ⟨p, hp⟩ := exists_policy_of_decodeWith h
  rw [hp] at h
  obtain ⟨items, payload, hdecode, hitems, h3, h5, hfits, hform, hback⟩ :=
    exists_items_of_decode h
  have hiff := listFree_iff_of_items hdecode hitems hfits
  have hencode : (encode t).result = .ok payload.encode := (encode_observes.result t).trans hform
  have hfree : Payload.ListFree payload.encode :=
    (listFree_iff_of_items (Payload.decode_encode_items hfits) (Payload.flattened_items _) hfits).2
      rfl
  refine ⟨⟨_, hencode, hfree, (hp _).trans hback⟩, ?_, ?_, ?_, ?_⟩
  · rw [hencode, hiff, Except.ok.injEq]
  · intro hfree
    rw [get_transactionHash, hform, hiff.1 hfree]
    rfl
  · intro setting' policy' c u hu hb hc heq
    obtain ⟨p', hp'⟩ := exists_policy_of_decodeWith hu
    rw [hp'] at hu
    obtain ⟨items', payload', hdecode', hitems', _, _, hfits', hform', _⟩ :=
      exists_items_of_decode hu
    rw [hencode, encode_observes.result, hform', Except.ok.injEq, hiff.1 hb,
      (listFree_iff_of_items hdecode' hitems' hfits').1 hc] at heq
    exact heq
  · intro items' i ys hdecode' hi
    rw [hdecode] at hdecode'
    cases hdecode'
    have hnil : Item.list ys = .list [] := by
      refine (Payload.eq_bytes_or_eq_nil hitems (List.mem_of_getElem? hi)).resolve_left ?_
      rintro ⟨c, hc⟩
      cases hc
    cases hnil
    refine ⟨rfl, ?_, ?_⟩
    · rintro rfl
      exact h3 hi
    · rintro rfl
      exact h5 hi

end

open scoped Stack.Usual

theorem encode_decode_stringForNonce :
    ∃ t, decodeWith none (some .reject) (.bytes stringForNonce) = .ok t ∧
      Payload.ListFree stringForNonce ∧ (encode t).result = .ok stringForNonce ∧
      (get .transactionHash t).result = .ok (.text (Hex.text (keccak256 stringForNonce))) := by
  obtain ⟨t, _, hstring⟩ := exists_decode_nonceForms .reject
  have hread : decodeWith none (some .reject) (.bytes stringForNonce) = .ok t := hstring
  obtain ⟨_, hiff, hhash, _, _⟩ := encode_decode hread
  exact ⟨t, hread, listFree_stringForNonce, hiff.2 listFree_stringForNonce,
    hhash listFree_stringForNonce⟩

/-- **An input that is read and is not written again**: what is written for the transaction is
another input, from which the same transaction is read. -/
theorem decode_listForNonce :
    ∃ t, decodeWith none (some .replaceEmpty) (.bytes listForNonce) = .ok t ∧
      decodeWith none (some .replaceEmpty) (.bytes stringForNonce) = .ok t ∧
      (encode t).result = .ok stringForNonce ∧ (encode t).result ≠ .ok listForNonce := by
  obtain ⟨t, hlist, hstring⟩ := exists_decode_nonceForms .replaceEmpty
  obtain ⟨items, payload, hdecode, hitems, _, _, hfits, hform, _⟩ :=
    exists_items_of_decode hstring
  have hencode : (encode t).result = .ok stringForNonce := by
    rw [encode_observes.result, hform,
      (listFree_iff_of_items hdecode hitems hfits).1 listFree_stringForNonce]
  refine ⟨t, hlist, hstring, hencode, ?_⟩
  rw [hencode]
  intro h
  exact absurd (Except.ok.inj h) (by decide)

end Transaction

end PlainTx
