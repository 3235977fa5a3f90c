/-
**What can be attached.**

A value offers signatures: a signature offers itself, and a value with parts offers its parts.  A
part is taken as a signature if it is one, or if it is a list or a tuple of three components; the
value itself is never taken as three components, so that a tuple of three numbers offers three
things that are no signatures.  Attaching needs all parts to be signatures, a slot that can be
filled, and one part, and looks for these in this order.

Main definitions:

* `PlainTx.Value.offered` — what a value offers;
* `PlainTx.Value.Represents` — the signature that a part is;
* `PlainTx.Value.Misfit` — the fault with which a part that is none is refused;
* `PlainTx.Transaction.Takes`, `PlainTx.Transaction.Refuses` — what becomes of the parts.

Main results:

* `PlainTx.Signature.read_eq_ok_iff`, `PlainTx.Signature.decides_read` — the parts that are taken as
  signatures;
* `PlainTx.Transaction.decides_append` — **when attaching succeeds, and how it fails**;
* `PlainTx.Transaction.append_exactly` — and what it leaves behind;
* `PlainTx.Transaction.append_longPart` — a part that is no signature and is not blamed.
-/

import PlainTx.Proofs.Atomicity
import PlainTx.Proofs.Grammar

set_option relaxedAutoImplicit false
set_option autoImplicit false

namespace PlainTx

open Result (Decides DecidesAll FirstRefused decidesAll_mapM)

/-! ### Signatures of components -/

namespace Value

/-- The components of a signature, in the order in which they are read. -/
def components (v r s : Value) : List Entry :=
  [⟨"v", .component, v⟩, ⟨"r", .component, r⟩, ⟨"s", .component, s⟩]

/-- The value is a list or a tuple of three. -/
inductive Triple : Value → Value → Value → Value → Prop where
  | list (v r s : Value) : Triple (.list [v, r, s]) v r s
  | tuple (v r s : Value) : Triple (.tuple [v, r, s]) v r s

/-- **The signature that a value is**: the one that it holds, or that of the three numbers that it
gives. -/
inductive Represents : Value → Signature → Prop where
  | signature (sig : Signature) : Represents (.signature sig) sig
  | triple {x v r s : Value} {a b c : Nat} (hx : x.Triple v r s) (hv : v.Gives a) (hr : r.Gives b)
      (hs : s.Gives c) : Represents x (.ofNumbers a b c)

/-- **The fault with which a value that is no signature is refused**: it has the wrong shape, or
three components, of which the leftmost that gives no number is to blame. -/
inductive Misfit [Stack] : Value → Fault → Prop where
  | shape {x : Value} (hsignature : ∀ sig, x ≠ .signature sig)
      (htriple : ∀ v r s, ¬ x.Triple v r s) : Misfit x (.ofFlaw "signatures" x .notSignature)
  | component {x v r s : Value} {fault : Fault} (hx : x.Triple v r s)
      (h : FirstRefused Entry.Passes Entry.Refused (components v r s) fault) : Misfit x fault

theorem shape_cases (x : Value) :
    (∃ sig, x = .signature sig) ∨ (∃ v r s, x.Triple v r s) ∨
      (∀ sig, x ≠ .signature sig) ∧ ∀ v r s, ¬ x.Triple v r s := by
  by_cases hsignature : ∃ sig, x = .signature sig
  · exact .inl hsignature
  · by_cases htriple : ∃ v r s, x.Triple v r s
    · exact .inr (.inl htriple)
    · exact .inr (.inr ⟨fun sig h => hsignature ⟨sig, h⟩, fun v r s h => htriple ⟨v, r, s, h⟩⟩)

/-- What cannot be printed of a component cannot be printed of the three of them. -/
theorem Triple.unprinted [Stack] {x v r s : Value} {fault : Fault} {e : Entry}
    (hx : x.Triple v r s) (he : e ∈ components v r s) (h : e.value.Unprinted fault) :
    x.Unprinted fault := by
  have hmem : e.value ∈ [v, r, s] := List.mem_map_of_mem (f := Entry.value) he
  cases hx with
  | list => exact h.list hmem
  | tuple => exact h.tuple hmem

/-- A value of the wrong kind or with a wrong component has no good format; unless it cannot be
printed, which is then the fault. -/
theorem Misfit.kind? [Stack] {x : Value} {fault : Fault} (h : x.Misfit fault) :
    fault.kind? = some .invalidFormat ∨ x.Unprinted fault := by
  cases h with
  | shape =>
      rcases Fault.ofFlaw_cases "signatures" x .notSignature with ⟨_, hfault⟩ | ⟨_, hunprinted⟩
      · rw [hfault]
        exact .inl rfl
      · exact .inr hunprinted
  | component hx h =>
      obtain ⟨e, he, hrefused⟩ := h.exists_mem
      have habsent : ¬ e.grammar.Absent e.value := by
        simp only [components, List.mem_cons, List.not_mem_nil, or_false] at he
        rcases he with rfl | rfl | rfl <;> exact id
      rcases hrefused.kind? with ⟨_, hkind⟩ | ⟨_, hunprinted⟩
      · exact .inl (hkind.resolve_left fun h => habsent h.1).2
      · exact .inr (hx.unprinted he hunprinted)

/-- What a value offers: a signature offers itself, and other values offer their parts. -/
def offered : Value → Except Fault (List Value)
  | .signature sig => .ok [.signature sig]
  | x => x.parts

end Value

namespace Signature

variable [Stack] {x v r s : Value} {sig : Signature}

theorem read_of_triple (h : x.Triple v r s) : read x = ofComponents v r s := by
  cases h with
  | list => rfl
  | tuple => rfl

theorem read_of_shapeless (hsignature : ∀ sig, x ≠ .signature sig)
    (htriple : ∀ v r s, ¬ x.Triple v r s) :
    read x = .error (.ofFlaw "signatures" x .notSignature) := by
  unfold read
  split
  · exact absurd rfl (hsignature _)
  · exact absurd (.list _ _ _) (htriple _ _ _)
  · exact absurd (.tuple _ _ _) (htriple _ _ _)
  · rfl

/-- An integer is no signature, but there are no words to say so if it is too long. -/
theorem read_of_long {z : Int} (h : Decimal.writable z = false) :
    read (.int z) = .error .tooManyDigits :=
  congrArg Except.error (Fault.ofFlaw_of_long rfl h)

/-- **The reader of three components decides the grammars of all three.** -/
theorem decides_ofComponents (v r s : Value) :
    DecidesAll (ofComponents v r s) Entry.Passes Entry.Refused (Value.components v r s) := by
  refine (decides_component "v" v).cons fun bv _ => (decides_component "r" r).cons fun br _ => ?_
  exact (decides_component "s" s).all.bind_pure (Signature.mk bv br)

theorem ofComponents_of_gives {a b c : Nat} (hv : v.Gives a) (hr : r.Gives b) (hs : s.Gives c) :
    ofComponents v r s = .ok (.ofNumbers a b c) := by
  simp only [ofComponents, component_of_gives hv, component_of_gives hr, component_of_gives hs,
    Result.ok_bind]
  rfl

/-- **The parts that are taken as signatures, and the signatures that they are.** -/
theorem read_eq_ok_iff : read x = .ok sig ↔ x.Represents sig := by
  constructor
  · intro h
    rcases x.shape_cases with ⟨given, rfl⟩ | ⟨v, r, s, hx⟩ | ⟨hsignature, htriple⟩
    · cases h
      exact .signature sig
    · rw [read_of_triple hx] at h
      have hgive := (decides_ofComponents v r s).ok_iff.1 ⟨sig, h⟩
      obtain ⟨a, ha⟩ := hgive ⟨"v", .component, v⟩ (by simp [Value.components])
      obtain ⟨b, hb⟩ := hgive ⟨"r", .component, r⟩ (by simp [Value.components])
      obtain ⟨c, hc⟩ := hgive ⟨"s", .component, s⟩ (by simp [Value.components])
      cases (ofComponents_of_gives ha hb hc).symm.trans h
      exact .triple hx ha hb hc
    · rw [read_of_shapeless hsignature htriple] at h
      cases h
  · intro h
    cases h with
    | signature => rfl
    | triple hx hv hr hs => exact (read_of_triple hx).trans (ofComponents_of_gives hv hr hs)

/-- A value is one signature at most. -/
theorem eq_of_represents {sig' : Signature} (h : x.Represents sig) (h' : x.Represents sig') :
    sig = sig' :=
  Except.ok.inj ((read_eq_ok_iff.2 h).symm.trans (read_eq_ok_iff.2 h'))

/-- **The reader of a part takes signatures, and blames what does not fit.** -/
theorem decides_read (x : Value) : Decides (read x) (∃ sig, x.Represents sig) x.Misfit := by
  refine ⟨exists_congr fun sig => read_eq_ok_iff, fun fault => ?_⟩
  constructor
  · intro h
    rcases x.shape_cases with ⟨given, rfl⟩ | ⟨v, r, s, hx⟩ | ⟨hsignature, htriple⟩
    · cases h
    · rw [read_of_triple hx] at h
      exact .component hx (((decides_ofComponents v r s).error_iff fault).1 h)
    · cases (read_of_shapeless hsignature htriple).symm.trans h
      exact .shape hsignature htriple
  · intro h
    cases h with
    | shape hsignature htriple => exact read_of_shapeless hsignature htriple
    | component hx h =>
        exact (read_of_triple hx).trans (((decides_ofComponents _ _ _).error_iff fault).2 h)

/-- All that a value offers is read, one part after the other. -/
theorem readAll_eq (x : Value) : readAll x = x.offered >>= fun items => items.mapM read := by
  cases x with
  | signature sig => rfl
  | _ => rfl

end Signature

/-! ### Attaching -/

namespace Transaction

variable {t : Transaction} {x : Value} {items : List Value} {fault : Fault}

/-- The slot holds nothing, or a placeholder that may be replaced. -/
def Vacant (t : Transaction) : Prop :=
  ∀ held, t.signature? = some held → t.policy = .replaceEmpty ∧ held.numbers = (1, 0, 0)

/-- **What a transaction takes**: one part, which is a signature, if its slot is vacant. -/
def Takes (t : Transaction) (items : List Value) : Prop :=
  (∀ item ∈ items, ∃ sig, item.Represents sig) ∧ items.length = 1 ∧ t.Vacant

/-- **How a transaction refuses what it does not take**: the leftmost part that is no signature is
blamed first, then the slot, and then the number of parts. -/
inductive Refuses [Stack] (t : Transaction) (items : List Value) : Fault → Prop where
  | misfit {fault : Fault}
      (h : FirstRefused (fun item => ∃ sig, Value.Represents item sig) Value.Misfit items fault) :
      Refuses t items fault
  | occupied (hall : ∀ item ∈ items, ∃ sig, item.Represents sig) (hslot : ¬ t.Vacant) :
      Refuses t items (.occupied t.slot.owner)
  | notOne (hall : ∀ item ∈ items, ∃ sig, item.Represents sig) (hslot : t.Vacant)
      (hlength : items.length ≠ 1) : Refuses t items (.notOneSignature items.length)

theorem vacant_iff : t.Vacant ↔ t.slot.available = true := Slot.available_iff.symm

section

variable [Stack]

/-- **When attaching succeeds, and how it fails.** -/
theorem decides_append (hx : x.offered = .ok items) :
    Decides (append x t).result (t.Takes items) (t.Refuses items) := by
  have hread : Signature.readAll x = items.mapM Signature.read := by
    rw [Signature.readAll_eq, hx, Result.ok_bind]
  have hitems := decidesAll_mapM Signature.decides_read items
  cases hsigs : items.mapM Signature.read with
  | error fault =>
      have hmisfit := (hitems.error_iff fault).1 hsigs
      have hsome := hitems.not_passes hmisfit
      rw [append_of_error (attach_of_unreadable (hread.trans hsigs))]
      refine .of_error (fun h => hsome h.1) (.misfit hmisfit) fun other hother => ?_
      cases hother with
      | misfit h => exact hitems.unique h hmisfit
      | occupied hall => exact absurd hall hsome
      | notOne hall => exact absurd hall hsome
  | ok sigs =>
      have hall := hitems.ok_iff.1 ⟨sigs, hsigs⟩
      have hfit : ∀ fault, ¬ FirstRefused _ _ items fault := fun fault h =>
        hitems.not_passes h hall
      by_cases hslot : t.Vacant
      · by_cases hone : items.length = 1
        · obtain ⟨sig, rfl⟩ := List.length_eq_one_iff.1 ((Result.length_of_mapM hsigs).trans hone)
          rw [append_of_attach (attach_of_available (vacant_iff.1 hslot) (hread.trans hsigs))]
          refine .of_ok ⟨hall, hone, hslot⟩ fun fault hfault => ?_
          cases hfault with
          | misfit h => exact hfit fault h
          | occupied _ h => exact h hslot
          | notOne _ _ h => exact h hone
        · have hmany : sigs.length ≠ 1 := Result.length_of_mapM hsigs ▸ hone
          rw [append_of_error (attach_of_several (vacant_iff.1 hslot) (hread.trans hsigs) hmany),
            Result.length_of_mapM hsigs]
          refine .of_error (fun h => hone h.2.1) (.notOne hall hslot hone) fun fault hfault => ?_
          cases hfault with
          | misfit h => exact absurd h (hfit fault)
          | occupied _ h => exact absurd hslot h
          | notOne => rfl
      · have hoccupied := Bool.eq_false_iff.2 fun h => hslot (vacant_iff.2 h)
        rw [append_of_occupied hoccupied (hread.trans hsigs)]
        refine .of_error (fun h => hslot h.2.2) (.occupied hall hslot) fun fault hfault => ?_
        cases hfault with
        | misfit h => exact absurd h (hfit fault)
        | occupied => rfl
        | notOne _ h => exact absurd h hslot

/-- What was attached is the signature that the one part is. -/
theorem exists_represented_of_append (hx : x.offered = .ok items)
    (h : (append x t).result = .ok ()) :
    ∃ item sig, items = [item] ∧ item.Represents sig ∧
      (append x t).transaction = t.holding sig := by
  cases hattach : t.attach x with
  | error fault =>
      rw [append_of_error hattach] at h
      cases h
  | ok attached =>
      obtain ⟨u, replaced⟩ := attached
      obtain ⟨_, _, sig, hread, rfl⟩ := attach_eq_ok_iff.1 hattach
      rw [Signature.readAll_eq, hx, Result.ok_bind] at hread
      obtain ⟨item, rfl⟩ := List.length_eq_one_iff.1 (Result.length_of_mapM hread).symm
      obtain ⟨_, hitem, hsig⟩ := (Result.mem_of_mapM hread sig).1 List.mem_cons_self
      cases List.mem_singleton.1 hitem
      rw [append_of_attach hattach]
      exact ⟨item, sig, rfl, Signature.read_eq_ok_iff.1 hsig, rfl⟩

/-- **The kind of a refusal**: a bad format as long as some part is no signature, unless the
leftmost of these cannot be printed; then a conflict as long as the slot is not vacant; and at last
a wrong number of signatures. -/
theorem Refuses.kind? (h : t.Refuses items fault) :
    (∃ before item after, items = before ++ item :: after ∧
        (∀ earlier ∈ before, ∃ sig, earlier.Represents sig) ∧ (∀ sig, ¬ item.Represents sig) ∧
        (fault.kind? = some .invalidFormat ∨ item.Unprinted fault)) ∨
      (∀ item ∈ items, ∃ sig, item.Represents sig) ∧
        (¬ t.Vacant ∧ fault.kind? = some .signatureConflict ∨
          t.Vacant ∧ items.length ≠ 1 ∧ fault.kind? = some .signatureCardinality) := by
  cases h with
  | misfit h =>
      obtain ⟨before, item, after, hitems, hbefore, hmisfit⟩ := Result.firstRefused_iff.1 h
      have hnone := (Signature.decides_read item).not_passes hmisfit
      exact .inl ⟨before, item, after, hitems, hbefore, fun sig hsig => hnone ⟨sig, hsig⟩,
        hmisfit.kind?⟩
  | occupied hall hslot => exact .inr ⟨hall, .inl ⟨hslot, rfl⟩⟩
  | notOne hall hslot hlength => exact .inr ⟨hall, .inr ⟨hslot, hlength, rfl⟩⟩

/-- **Attaching, exactly**: it succeeds exactly if all parts are signatures, there is one, and the
slot holds nothing or a placeholder that may be replaced; then the transaction holds the signature
that the part is.  Otherwise nothing changes, and what is reported is the leftmost part, and in it
the leftmost component, that does not fit; then the slot; then the number of parts.  A part that
does not fit has a bad format, unless it cannot be printed.  A tuple of three is never one
signature, but three parts. -/
theorem append_exactly (hx : x.offered = .ok items) :
    ((append x t).result = .ok () ↔
      (∀ item ∈ items, ∃ sig, item.Represents sig) ∧ items.length = 1 ∧
        ∀ held, t.signature? = some held → t.policy = .replaceEmpty ∧ held.numbers = (1, 0, 0)) ∧
    ((append x t).result = .ok () → ∃ item sig, items = [item] ∧ item.Represents sig ∧
      (append x t).transaction = t.holding sig ∧ (append x t).transaction.signatures = [sig]) ∧
    (∀ fault, (append x t).result = .error fault ↔ t.Refuses items fault) ∧
    (∀ fault, (append x t).result = .error fault → (append x t).transaction = t ∧
      ((∃ before item after, items = before ++ item :: after ∧
          (∀ earlier ∈ before, ∃ sig, earlier.Represents sig) ∧ (∀ sig, ¬ item.Represents sig) ∧
          (fault.kind? = some .invalidFormat ∨ item.Unprinted fault)) ∨
        (∀ item ∈ items, ∃ sig, item.Represents sig) ∧
          (¬ t.Vacant ∧ fault.kind? = some .signatureConflict ∨
            t.Vacant ∧ items.length ≠ 1 ∧ fault.kind? = some .signatureCardinality))) ∧
    (∀ v r s, x = .tuple [v, r, s] → (append x t).result ≠ .ok () ∧
      ((∃ item ∈ [v, r, s], ∀ sig, ¬ item.Represents sig) →
        ∃ fault, (append x t).result = .error fault ∧
          (fault.kind? = some .invalidFormat ∨ ∃ item ∈ [v, r, s], item.Unprinted fault))) := by
  have hdecides : Decides (append x t).result (t.Takes items) (t.Refuses items) := decides_append hx
  have hok : (append x t).result = .ok () ↔ t.Takes items := by
    rw [← hdecides.ok_iff]
    exact ⟨fun h => ⟨(), h⟩, fun ⟨_, h⟩ => h⟩
  refine ⟨hok, ?_, hdecides.error_iff, fun fault hfault => ?_, ?_⟩
  · intro h
    obtain ⟨item, sig, hitems, hsig, htransaction⟩ := exists_represented_of_append hx h
    exact ⟨item, sig, hitems, hsig, htransaction, by rw [htransaction]; rfl⟩
  · exact ⟨append_atomic x t fault hfault, ((hdecides.error_iff fault).1 hfault).kind?⟩
  · rintro v r s rfl
    cases hx
    have hnever : (append (.tuple [v, r, s]) t).result ≠ .ok () := by
      intro h
      cases (hok.1 h).2.1
    refine ⟨hnever, ?_⟩
    rintro ⟨item, hitem, hnone⟩
    cases hresult : (append (.tuple [v, r, s]) t).result with
    | ok u => exact absurd hresult hnever
    | error fault =>
        refine ⟨fault, rfl, ?_⟩
        rcases ((hdecides.error_iff fault).1 hresult).kind? with
          ⟨before, blamed, after, hitems, _, _, hkind⟩ | ⟨hall, _⟩
        · have hblamed : blamed ∈ [v, r, s] := hitems ▸ List.mem_append_right _ List.mem_cons_self
          exact hkind.imp_right fun hunprinted => ⟨blamed, hblamed, hunprinted⟩
        · obtain ⟨sig, hsig⟩ := hall item hitem
          exact absurd hsig (hnone sig)

end

open scoped Stack.Usual

/-- A placeholder is replaced by a triple in a list, whose components come in three forms; and the
same three components are no signature by themselves. -/
theorem append_exactly_unsignedTransfer :
    (append (.list [.tuple [.int 37, .text "0X1", .bytes [0, 2]]]) unsignedTransfer).transaction =
        unsignedTransfer.holding (.ofNumbers 37 1 2) ∧
      (append (.tuple [.int 37, .text "0X1", .bytes [0, 2]]) unsignedTransfer).result =
        .error (.malformed "signatures" (.int 37) .notSignature) := by
  have hscan : Hex.scan "0X1".toList = some (some .upper, [Hex.lastDigit 1]) := by decide
  have htriple : (Value.tuple [.int 37, .text "0X1", .bytes [0, 2]]).Represents
      (.ofNumbers 37 1 2) :=
    .triple (.tuple _ _ _) (Value.gives_int 37) (Value.gives_of_scan hscan)
      (Value.gives_bytes [0, 2])
  obtain ⟨hok, hholding, _⟩ := append_exactly (t := unsignedTransfer)
    (x := .list [.tuple [.int 37, .text "0X1", .bytes [0, 2]]]) rfl
  obtain ⟨item, sig, hitem, hsig, htransaction, _⟩ := hholding (hok.2
    ⟨fun item hitem => ⟨_, List.mem_singleton.1 hitem ▸ htriple⟩, rfl, available_unsignedTransfer⟩)
  cases hitem
  cases Signature.eq_of_represents hsig htriple
  have hfault : Fault.ofFlaw "signatures" (.int 37) .notSignature =
      .malformed "signatures" (.int 37) .notSignature :=
    Fault.ofFlaw_of_printable fun _ => ⟨by decide +kernel, Nat.zero_le _⟩
  have hrefuses : unsignedTransfer.Refuses [.int 37, .text "0X1", .bytes [0, 2]]
      (.ofFlaw "signatures" (.int 37) .notSignature) := .misfit (.here (.shape nofun nofun))
  exact ⟨htransaction, ((append_exactly rfl).2.2.1 _).2 (hfault ▸ hrefuses)⟩

/-- **A part that is not blamed**: it is no signature, but there are no words to say so. -/
theorem append_longPart :
    (append (.list [.int Decimal.leastLong]) unsignedTransfer).result = .error .tooManyDigits ∧
      (∀ sig, ¬ (Value.int Decimal.leastLong).Represents sig) ∧
      Fault.tooManyDigits.kind? = none := by
  have hmisfit : (Value.int Decimal.leastLong).Misfit .tooManyDigits :=
    ((Signature.decides_read _).error_iff _).1
      (Signature.read_of_long Decimal.not_writable_leastLong)
  refine ⟨((decides_append rfl).error_iff _).2 (.misfit (.here hmisfit)), fun sig hsig => ?_, rfl⟩
  exact (Signature.decides_read _).not_passes hmisfit ⟨sig, hsig⟩

end Transaction

end PlainTx
