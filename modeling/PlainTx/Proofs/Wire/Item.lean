/-
**Items on the wire are canonical.**

Writing and reading items are inverse to each other.  An item that is short enough and not nested
too deeply is read back from its encoding, whatever follows it; and the bytes of an item that is
read are its encoding.  So an item has one encoding, and no two items share one.

The reader is lenient in one way: a byte string may announce more bytes than are left.  That is why
the second direction asks for all announced bytes to be there.  For the item that makes up a whole
input they are, because the reader compares the two lengths in the end, and an item inside a list
announces no more than the list does.

Main definitions:

* `PlainTx.Rlp.depth`, `PlainTx.Rlp.depthAll` — how deeply items are nested.

Main results:

* `PlainTx.Rlp.readItem_encode` — an item is read back from its encoding;
* `PlainTx.Rlp.encode_of_readItem` — the bytes of an item that is read are its encoding;
* `PlainTx.Rlp.decode_eq_ok_iff` — **the inputs that are read are the encodings**;
* `PlainTx.Rlp.encode_injective` — items with one encoding are equal.
-/

import PlainTx.Proofs.Wire.Head

set_option relaxedAutoImplicit false
set_option autoImplicit false

namespace PlainTx.Rlp

/-! ### Depth -/

mutual

/-- The number of levels an item is nested in. -/
def depth : Item → Nat
  | .bytes _ => 1
  | .list items => depthAll items + 1

/-- The largest number of levels among some items. -/
def depthAll : List Item → Nat
  | [] => 0
  | x :: rest => max (depth x) (depthAll rest)

end

theorem fits_bytes {b : Bytes} : fits (.bytes b) = true ↔ b.length < lengthLimit := by
  rw [fits, decide_eq_true_eq]

theorem fits_list {items : List Item} :
    fits (.list items) = true ↔
      allFit items = true ∧ (encodeAll items).length < lengthLimit := by
  rw [fits, Bool.and_eq_true, decide_eq_true_eq]

theorem allFit_cons {x : Item} {rest : List Item} :
    allFit (x :: rest) = true ↔ fits x = true ∧ allFit rest = true := by
  rw [allFit, Bool.and_eq_true]

/-! ### Shapes of encodings -/

/-- A byte string is its own encoding if it is a single byte below 0x80, and has a head
otherwise. -/
theorem encodeBytes_cases (b : Bytes) :
    (∃ x, b = [x] ∧ x.toNat < 0x80 ∧ encodeBytes b = [x]) ∨
    (encodeBytes b = head stringBase b.length ++ b ∧
      (b.length = 1 → ∃ x rest, b = x :: rest ∧ 0x80 ≤ x.toNat)) := by
  match b with
  | [] => exact .inr ⟨rfl, by simp⟩
  | [x] =>
      by_cases hx : x.toNat < 0x80
      · exact .inl ⟨x, rfl, hx, by rw [encodeBytes, if_pos hx]⟩
      · refine .inr ⟨?_, fun _ => ⟨x, [], rfl, by omega⟩⟩
        rw [encodeBytes, if_neg hx, List.length_singleton]
  | x :: y :: rest => exact .inr ⟨rfl, by simp⟩

theorem head_ne_nil (base n : Nat) : head base n ≠ [] := by
  by_cases h : n < 56
  · rw [head_of_lt h]
    exact List.cons_ne_nil _ _
  · rw [head_of_ge (by omega)]
    exact List.cons_ne_nil _ _

theorem length_encode_pos (item : Item) : 0 < (encode item).length := by
  rw [List.length_pos_iff]
  cases item with
  | bytes b =>
      rw [encode]
      obtain ⟨x, -, -, h⟩ | ⟨h, -⟩ := encodeBytes_cases b
      · rw [h]
        exact List.cons_ne_nil _ _
      · rw [h]
        exact List.append_ne_nil_of_left_ne_nil (head_ne_nil _ _) _
  | list items =>
      rw [encode]
      exact List.append_ne_nil_of_left_ne_nil (head_ne_nil _ _) _

/-! ### Reading what was written -/

theorem readItem_encodeBytes {b : Bytes} (h : b.length < lengthLimit) (d : Nat) (rest : Bytes) :
    readItem (d + 1) (encodeBytes b ++ rest) = .ok (.bytes b, (encodeBytes b).length - 1) := by
  obtain ⟨x, rfl, hx, henc⟩ | ⟨henc, hsingle⟩ := encodeBytes_cases b
  · have hhead : readHead x rest = .ok .single := by simp only [readHead, if_pos hx]
    rw [henc, List.singleton_append, readItem, hhead]
    rfl
  · obtain ⟨first, digits, hhead, hread⟩ := readHead_stringHead h
    have hread := hread (b ++ rest) fun hone => by
      obtain ⟨x, tail, rfl, hx⟩ := hsingle hone
      exact ⟨x, tail ++ rest, rfl, hx⟩
    rw [henc, hhead, List.append_assoc, List.cons_append, readItem, hread]
    simp only [List.drop_left, List.take_left, List.length_cons, List.length_append,
      List.cons_append, Nat.add_sub_cancel]

mutual

/-- **An item is read back from its encoding**, whatever follows it. -/
theorem readItem_encode (item : Item) (d : Nat) (hfits : fits item = true) (hd : depth item ≤ d)
    (rest : Bytes) :
    readItem d (encode item ++ rest) = .ok (item, (encode item).length - 1) := by
  match item, d with
  | .bytes b, 0 => exact absurd hd (by simp [depth])
  | .list items, 0 => exact absurd hd (by simp [depth])
  | .bytes b, d + 1 =>
      rw [encode]
      exact readItem_encodeBytes (fits_bytes.1 hfits) d rest
  | .list items, d + 1 =>
      obtain ⟨hall, hlimit⟩ := fits_list.1 hfits
      have hdepth : depthAll items ≤ d := by
        rw [depth] at hd
        omega
      obtain ⟨first, digits, hhead, hread⟩ := readHead_listHead hlimit
      have hitems := readItems_encodeAll items d hall hdepth rest
      rw [encode, hhead, List.append_assoc, List.cons_append, readItem,
        hread (encodeAll items ++ rest)]
      simp only [List.drop_left, hitems, List.length_cons, List.length_append, List.cons_append,
        Nat.add_sub_cancel]

/-- Items in a row are read back from their encodings. -/
theorem readItems_encodeAll (items : List Item) (d : Nat) (hfits : allFit items = true)
    (hd : depthAll items ≤ d) (rest : Bytes) :
    readItems (readItem d) (encodeAll items ++ rest) (encodeAll items).length = .ok items := by
  match items with
  | [] =>
      rw [encodeAll, List.length_nil, readItems]
  | x :: xs =>
      obtain ⟨hx, hxs⟩ := allFit_cons.1 hfits
      rw [depthAll] at hd
      have hpos := length_encode_pos x
      have hitem := readItem_encode x d hx (by omega) (encodeAll xs ++ rest)
      have hitems := readItems_encodeAll xs d hxs (by omega) rest
      have hroom : (encodeAll (x :: xs)).length =
          (encode x).length - 1 + (encodeAll xs).length + 1 := by
        rw [encodeAll, List.length_append]
        omega
      have hsize : (encode x).length - 1 + 1 = (encode x).length := by omega
      rw [hroom, encodeAll, List.append_assoc, readItems, hitem]
      dsimp only
      rw [if_neg (by omega), hsize, List.drop_left, Nat.add_sub_cancel_left, hitems]

end

/-! ### What was read -/

/-- What an item says about the bytes it was read from: its encoding is the first `size + 1` of
them, it is short enough, and it is nested in at most `d` levels. -/
structure ReadFrom (d : Nat) (b : Bytes) (item : Item) (size : Nat) : Prop where
  encode_eq : encode item = b.take (size + 1)
  fits : Rlp.fits item = true
  depth_le : depth item ≤ d

/-- The same for several items in the first `room` bytes. -/
structure ReadAllFrom (d : Nat) (b : Bytes) (items : List Item) (room : Nat) : Prop where
  encodeAll_eq : encodeAll items = b.take room
  allFit : Rlp.allFit items = true
  depthAll_le : depthAll items ≤ d

/-- The items of a list, if each item that is read is what its bytes encode. -/
theorem readAllFrom_of_readItems {d : Nat} {read : Bytes → Except Fault (Item × Nat)}
    (hread : ∀ {b item size}, read b = .ok (item, size) → size + 1 ≤ b.length →
      ReadFrom d b item size)
    (room : Nat) (b : Bytes) (items : List Item) (h : readItems read b room = .ok items)
    (hroom : room ≤ b.length) : ReadAllFrom d b items room := by
  -- an item takes at least one byte of the room, so strong induction on the room is enough
  induction room using Nat.strongRecOn generalizing b items with
  | ind room ih =>
      cases room with
      | zero =>
          rw [readItems] at h
          cases h
          exact ⟨rfl, rfl, Nat.zero_le d⟩
      | succ room =>
          rw [readItems] at h
          cases hitem : read b with
          | error fault => rw [hitem] at h; cases h
          | ok found =>
              obtain ⟨item, size⟩ := found
              rw [hitem] at h
              dsimp only at h
              split at h
              · cases h
              · next hsize =>
                  cases hrest : readItems read (b.drop (size + 1)) (room - size) with
                  | error fault => rw [hrest] at h; cases h
                  | ok rest =>
                      rw [hrest] at h
                      cases h
                      have hx := hread hitem (by omega)
                      have hxs := ih (room - size) (by omega) _ _ hrest (by simp; omega)
                      have hsum : room + 1 = size + 1 + (room - size) := by omega
                      refine ⟨?_, allFit_cons.2 ⟨hx.fits, hxs.allFit⟩, ?_⟩
                      · rw [encodeAll, hx.encode_eq, hxs.encodeAll_eq, ← List.take_add, ← hsum]
                      · rw [depthAll]
                        exact Nat.max_le.2 ⟨hx.depth_le, hxs.depthAll_le⟩

/-- A byte string that is read with all its bytes has the bytes it was read from as its
encoding. -/
theorem encodeBytes_of_readHead {first : UInt8} {tail : Bytes} {skip length : Nat}
    (h : readHead first tail = .ok (.string skip length)) (hlen : skip + length ≤ tail.length) :
    encodeBytes ((tail.drop skip).take length) = (first :: tail).take (skip + length + 1) ∧
      length < lengthLimit := by
  obtain ⟨hhead, hlimit, hsingle⟩ := stringHead_of_readHead h (by omega)
  have hpayload : ((tail.drop skip).take length).length = length := by
    rw [List.length_take, List.length_drop]
    omega
  refine ⟨?_, hlimit⟩
  rw [List.take_succ_cons, List.take_add, ← List.cons_append, ← hhead]
  obtain ⟨x, hx, hlt, -⟩ | ⟨henc, -⟩ := encodeBytes_cases ((tail.drop skip).take length)
  · -- a single byte below 0x80 behind a head of its own is what the reader refuses
    have hone : length = 1 := by
      rw [hx] at hpayload
      exact hpayload.symm
    obtain ⟨y, rest, hdrop, hy⟩ := hsingle hone
    rw [hdrop, hone] at hx
    obtain rfl : y = x := by simpa using hx
    omega
  · rw [henc, hpayload]

/-- **The bytes of an item that is read are its encoding**, if all bytes it announces are there. -/
theorem encode_of_readItem (d : Nat) {b : Bytes} {item : Item} {size : Nat}
    (h : readItem d b = .ok (item, size)) (hlen : size + 1 ≤ b.length) :
    ReadFrom d b item size := by
  induction d generalizing b item size with
  | zero => rw [readItem] at h; cases h
  | succ d ih =>
      cases b with
      | nil => rw [readItem] at h; cases h
      | cons first tail =>
          rw [List.length_cons] at hlen
          rw [readItem] at h
          cases hhead : readHead first tail with
          | error fault => rw [hhead] at h; cases h
          | ok shape =>
              rw [hhead] at h
              cases shape with
              | single =>
                  cases h
                  have hlt := toNat_lt_of_single hhead
                  refine ⟨?_, fits_bytes.2 (by simp [lengthLimit]), by simp [depth]⟩
                  rw [encode, encodeBytes, if_pos hlt]
                  rfl
              | string skip length =>
                  cases h
                  obtain ⟨henc, hlimit⟩ := encodeBytes_of_readHead hhead (by omega)
                  refine ⟨by rw [encode, henc], fits_bytes.2 ?_, by simp [depth]⟩
                  rw [List.length_take]
                  omega
              | list skip length =>
                  dsimp only at h
                  cases hitems : readItems (readItem d) (tail.drop skip) length with
                  | error fault => rw [hitems] at h; cases h
                  | ok items =>
                      rw [hitems] at h
                      cases h
                      have hroom : length ≤ (tail.drop skip).length := by
                        rw [List.length_drop]
                        omega
                      obtain ⟨hwritten, hlimit⟩ := listHead_of_readHead hhead (by omega)
                      have hall := readAllFrom_of_readItems ih length _ _ hitems hroom
                      have hpayload : (encodeAll items).length = length := by
                        rw [hall.encodeAll_eq, List.length_take]
                        omega
                      refine ⟨?_, fits_list.2 ⟨hall.allFit, by omega⟩, ?_⟩
                      · rw [encode, hpayload, hwritten, hall.encodeAll_eq, List.take_succ_cons,
                          List.take_add, List.cons_append]
                      · rw [depth]
                        exact Nat.succ_le_succ hall.depthAll_le

/-! ### Whole inputs -/

/-- **The inputs that are read are the encodings** of the items that are short enough and not
nested too deeply. -/
theorem decode_eq_ok_iff [Stack] {b : Bytes} {item : Item} :
    decode b = .ok item ↔
      b = encode item ∧ fits item = true ∧ depth item ≤ Stack.reading := by
  constructor
  · intro h
    unfold decode at h
    split at h
    · cases h
    · next x size hitem =>
        split at h
        · next hsize =>
            cases h
            have hread := encode_of_readItem Stack.reading hitem (by omega)
            refine ⟨?_, hread.fits, hread.depth_le⟩
            rw [hread.encode_eq, List.take_of_length_le (by omega)]
        · cases h
  · rintro ⟨rfl, hfits, hdepth⟩
    have hitem := readItem_encode item Stack.reading hfits hdepth []
    have hpos := length_encode_pos item
    rw [List.append_nil] at hitem
    rw [decode, hitem]
    dsimp only
    rw [if_pos (by omega)]

/-- **Items with one encoding are equal.** -/
theorem encode_injective {x y : Item} (hx : fits x = true) (hy : fits y = true)
    (h : encode x = encode y) : x = y := by
  have hread := readItem_encode x (max (depth x) (depth y)) hx (by omega) []
  rw [h, readItem_encode y _ hy (by omega) []] at hread
  injection hread with hread
  exact (congrArg Prod.fst hread).symm

end PlainTx.Rlp
