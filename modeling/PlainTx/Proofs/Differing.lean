/-
**How transactions differ.**

What is compared in a field is its *content*: a number that may be unset, a text in lower case, call
data as a text, or signatures.  The difference of two transactions lists the fields whose contents
are not the same, in one fixed order, and everything else that compares two transactions follows the
difference: comparing them, requiring them to be equal, and claiming so.  Hence being equal is an
equivalence, and exchanging the two transactions exchanges the two sides of each field.

Comparing never fails, save where the difference has to be put into words and a number in it has too
many digits to be written.

Main definitions:

* `PlainTx.Transaction.Compared` — the fields that are compared;
* `PlainTx.Transaction.Content` — what is compared in a field, and
  `PlainTx.Transaction.Content.Short`, whether it can be put into words;
* `PlainTx.Transaction.differing` — the mismatches of the fields whose contents are not the same;
* `PlainTx.Transaction.FollowsDifference` — what the ways to compare have to do with the difference.

Main results:

* `PlainTx.Address.agrees_iff_lower` — recipients are compared without regard to letter case;
* `PlainTx.Transaction.difference_eq` — **the difference lists the fields that differ**;
* `PlainTx.Transaction.difference_swap` — **its two sides can be exchanged**;
* `PlainTx.Transaction.writable_difference_iff` — when a difference can be put into words;
* `PlainTx.Transaction.compare_exactly` — **all ways to compare follow the difference**;
* `PlainTx.Transaction.compare_hugeTransfer` — a difference that cannot be put into words.
-/

import PlainTx.Proofs.Building
import PlainTx.Proofs.Comparison
import PlainTx.Proofs.LetterCase

set_option relaxedAutoImplicit false
set_option autoImplicit false

namespace PlainTx

/-! ### Recipients and call data -/

/-- **Recipients agree** exactly if their texts in lower case are the same. -/
theorem Address.agrees_iff_lower {a b : Address} :
    a.agrees b = true ↔ Text.lower a.text.toList = Text.lower b.text.toList := by
  rw [toList_text, toList_text, Hex.lower_written, Hex.lower_written, agrees, beq_iff_eq]
  exact ⟨congrArg (Hex.written _), Hex.digits_of_written⟩

theorem CallData.text_inj {data other : Bytes} : text data = text other ↔ data = other := by
  refine ⟨fun h => ?_, congrArg text⟩
  have hdigits : Hex.ofBytes data = Hex.ofBytes other := by
    have hscan := scan_text data
    rw [h, scan_text, Option.some_inj, Prod.mk.injEq] at hscan
    exact hscan.2.symm
  rw [← Hex.toBytes_ofBytes data, hdigits, Hex.toBytes_ofBytes]

namespace Transaction

/-! ### The fields that are compared -/

/-- What is compared in a field. -/
inductive Content where
  | number (n : Option Nat)
  | text (s : List Char)
  | signatures (sigs : List Signature)
deriving DecidableEq

/-- A number that is short enough to be written, or no number. -/
def Content.Short : Content → Prop
  | .number n => ∀ k ∈ n, k < Decimal.powTen Decimal.digitLimit
  | _ => True

/-- The fields that are compared. -/
inductive Compared where
  | nonce
  | gasPrice
  | gas
  | recipient
  | value
  | input
  | signatures
deriving DecidableEq

namespace Compared

/-- The fields in the order in which they are compared, the signatures only if asked for. -/
def all (checkSignature : Bool) : List Compared :=
  [.nonce, .gasPrice, .gas, .recipient, .value, .input] ++
    if checkSignature then [.signatures] else []

/-- The name of a field. -/
def name : Compared → String
  | .nonce => "nonce"
  | .gasPrice => "gas_price"
  | .gas => "gas"
  | .recipient => "to"
  | .value => "value"
  | .input => "input"
  | .signatures => "signatures"

/-- What is compared in the field of a transaction. -/
def content (t : Transaction) : Compared → Content
  | .nonce => .number (t.common.nonce.map Quantity.toNat)
  | .gasPrice => .number (t.common.gasPrice.map Quantity.toNat)
  | .gas => .number (t.common.gas.map Quantity.toNat)
  | .recipient => .text (Text.lower t.recipient.text.toList)
  | .value => .number (some t.value.toNat)
  | .input => .text (CallData.text t.input).toList
  | .signatures => .signatures t.signatures

/-- The field of a transaction as an untyped value. -/
def side (t : Transaction) : Compared → Value
  | .nonce => numberValue t.common.nonce
  | .gasPrice => numberValue t.common.gasPrice
  | .gas => numberValue t.common.gas
  | .recipient => .text t.recipient.text
  | .value => .int t.value.toNat
  | .input => .text (CallData.text t.input)
  | .signatures => t.signaturesValue

/-- The field with the sides of two transactions. -/
def mismatch (t u : Transaction) (f : Compared) : Mismatch := ⟨f.name, f.side t, f.side u⟩

end Compared

variable {t u : Transaction} {checkSignature : Bool}

/-! ### The difference -/

/-- The mismatches of those fields, among some, whose contents are not the same. -/
def differing (t u : Transaction) (fields : List Compared) : Difference :=
  (fields.filter fun f => f.content t ≠ f.content u).map (Compared.mismatch t u)

/-- The fields that differ, one by one. -/
theorem differing_cons {f : Compared} {same : Bool} (rest : List Compared)
    (h : same = true ↔ f.content t = f.content u) :
    differing t u (f :: rest) =
      mismatch f.name same (f.side t) (f.side u) ++ differing t u rest := by
  cases same with
  | true => simp [differing, mismatch, h.1 rfl]
  | false =>
      have hne : f.content t ≠ f.content u := fun heq => Bool.false_ne_true (h.2 heq)
      simp [differing, mismatch, hne, Compared.mismatch]

/-- **The difference of two transactions** lists the fields that differ, in order. -/
theorem difference_eq (t u : Transaction) (checkSignature : Bool) :
    t.difference u checkSignature = differing t u (Compared.all checkSignature) := by
  have hnumber : ∀ {x y : Option Nat}, (x == y) = true ↔ Content.number x = .number y := by
    intro x y
    rw [beq_iff_eq, Content.number.injEq]
  have hvalue : (t.value.toNat == u.value.toNat) = true ↔
      Content.number (some t.value.toNat) = .number (some u.value.toNat) := by
    rw [beq_iff_eq, Content.number.injEq, Option.some_inj]
  have hrecipient : t.recipient.agrees u.recipient = true ↔
      Compared.recipient.content t = Compared.recipient.content u := by
    rw [Address.agrees_iff_lower, Compared.content, Compared.content, Content.text.injEq]
  have hinput : (t.input == u.input) = true ↔
      Compared.input.content t = Compared.input.content u := by
    rw [beq_iff_eq, Compared.content, Compared.content, Content.text.injEq, String.toList_inj,
      CallData.text_inj]
  have hsignatures : (t.signatures == u.signatures) = true ↔
      Content.signatures t.signatures = .signatures u.signatures := by
    rw [beq_iff_eq, Content.signatures.injEq]
  rw [Compared.all]
  simp only [List.cons_append, List.nil_append]
  rw [differing_cons (f := .nonce) _ hnumber, differing_cons (f := .gasPrice) _ hnumber,
    differing_cons (f := .gas) _ hnumber, differing_cons (f := .recipient) _ hrecipient,
    differing_cons (f := .value) _ hvalue, differing_cons (f := .input) _ hinput]
  simp only [difference, List.append_assoc]
  cases checkSignature with
  | false => rfl
  | true =>
      have hnil : differing t u [] = [] := rfl
      rw [if_pos rfl, if_pos rfl, differing_cons (f := .signatures) _ hsignatures, hnil,
        List.append_nil]
      rfl

/-- There is no difference exactly if no field differs. -/
theorem difference_eq_nil_iff : t.difference u checkSignature = [] ↔
    ∀ f ∈ Compared.all checkSignature, f.content t = f.content u := by
  simp [difference_eq, differing, List.filter_eq_nil_iff]

/-- **Exchanging the transactions** exchanges the sides of each field. -/
theorem difference_swap (t u : Transaction) (checkSignature : Bool) :
    u.difference t checkSignature = (t.difference u checkSignature).map Mismatch.swap := by
  rw [difference_eq, difference_eq, differing, differing, List.map_map]
  simp only [ne_comm]
  rfl

/-- The names of the fields that differ are in order, and each of them occurs once. -/
theorem fields_difference_sublist (t u : Transaction) (checkSignature : Bool) :
    ((t.difference u checkSignature).map (·.field)).Sublist
      ((Compared.all checkSignature).map Compared.name) := by
  rw [difference_eq, differing, List.map_map]
  exact List.filter_sublist.map Compared.name

theorem nodup_names (checkSignature : Bool) :
    ((Compared.all checkSignature).map Compared.name).Nodup := by
  cases checkSignature <;> decide

/-! ### Differences in words -/

/-- Two numbers and what has to be added to one to get the other: the last is never the longest. -/
theorem writable_of_numbers (field : String) (x y : Option Quantity) :
    (⟨field, numberValue x, numberValue y⟩ : Mismatch).writable = true ↔
      (Content.number (x.map Quantity.toNat)).Short ∧
        (Content.number (y.map Quantity.toNat)).Short := by
  have hchange : ∀ m n : Nat, Decimal.writable m = true → Decimal.writable n = true →
      Decimal.writable ((n : Int) - m) = true := by
    intro m n hm hn
    rcases Nat.le_total m n with h | h
    · exact Decimal.writable_of_natAbs_le (by omega) hn
    · exact Decimal.writable_of_natAbs_le (by omega) hm
  cases x with
  | none =>
      cases y <;>
        simp [Mismatch.writable, numberValue, Value.writable, Value.int?, Content.Short,
          Decimal.writable_natCast]
  | some x =>
      cases y with
      | none =>
          simp [Mismatch.writable, numberValue, Value.writable, Value.int?, Content.Short,
            Decimal.writable_natCast]
      | some y =>
          simp only [Mismatch.writable, numberValue, Value.writable, Value.int?, Content.Short,
            Bool.and_eq_true, Option.map_some, Option.mem_some, forall_eq', ← Decimal.writable_natCast]
          exact ⟨fun h => h.1, fun h => ⟨h, hchange _ _ h.1 h.2⟩⟩

theorem allWritable_signatures (sigs : List Signature) :
    Value.allWritable (sigs.map .signature) = true := by
  induction sigs with
  | nil => rfl
  | cons sig sigs ih => simp [Value.allWritable, Value.writable, ih]

/-- A field can be put into words exactly if its numbers are short enough. -/
theorem writable_mismatch_iff {f : Compared} :
    (Compared.mismatch t u f).writable = true ↔ (f.content t).Short ∧ (f.content u).Short := by
  cases f with
  | nonce | gasPrice | gas => exact writable_of_numbers _ _ _
  | value => exact writable_of_numbers _ (some t.value) (some u.value)
  | recipient | input =>
      simp [Compared.mismatch, Mismatch.writable, Compared.side, Value.writable, Value.int?,
        Compared.content, Content.Short]
  | signatures =>
      simp [Compared.mismatch, Mismatch.writable, Compared.side, signaturesValue, Value.writable,
        Value.int?, Compared.content, Content.Short, allWritable_signatures]

/-- **A difference can be put into words** exactly if all numbers in which the transactions differ
are short enough. -/
theorem writable_difference_iff :
    (t.difference u checkSignature).writable = true ↔
      ∀ f ∈ Compared.all checkSignature, f.content t ≠ f.content u →
        (f.content t).Short ∧ (f.content u).Short := by
  simp only [Difference.writable, difference_eq, differing, List.all_map, List.all_eq_true,
    List.mem_filter, decide_eq_true_eq, Function.comp_apply, writable_mismatch_iff, and_imp]

/-! ### Comparing -/

/-- What comparing says, in terms of the difference. -/
theorem result_compare (detailed checkSignature : Bool) (t u : Transaction) :
    (compare detailed u checkSignature t).result =
      if t.difference u checkSignature = [] then .ok true
      else if detailed = true ∧ (t.difference u checkSignature).writable = false then
        .error .tooManyDigits
      else .ok false := by
  rw [(compare_observes detailed u checkSignature).result]
  simp only [equalFields, List.isEmpty_iff, Difference.requireWritable]
  split
  · rfl
  · cases detailed <;> cases (t.difference u checkSignature).writable <;> rfl

/-- What requiring two transactions to be equal says, in terms of the difference. -/
theorem requireEqual_transactions (t u : Transaction) (leftName rightName : Option String) :
    Subject.requireEqual (.transaction t) (.transaction u) leftName rightName =
      if t.difference u true = [] then .ok ()
      else .error (.ofDifference (t.difference u true) (leftName.getD "LegacyTransaction_a")
        (rightName.getD "LegacyTransaction_b")) := by
  simp only [Subject.requireEqual, equalFields, List.isEmpty_iff]
  rfl

/-- What claiming two transactions to be equal says, in terms of the difference. -/
theorem claimEqual_transactions (t u : Transaction) :
    Subject.claimEqual (.transaction t) (.transaction u) =
      if t.difference u true = [] then .ok ()
      else if (t.difference u true).writable = true then
        .error (.claimedEqual (.unequal (t.difference u true) "expected" "actual"))
      else .error .tooManyDigits := by
  rw [Subject.claimEqual, requireEqual_transactions, Fault.ofDifference]
  by_cases hnil : t.difference u true = []
  · rw [if_pos hnil, if_pos hnil]
  · rw [if_neg hnil, if_neg hnil]
    cases (t.difference u true).writable <;> rfl

/-- All ways to compare two transactions follow their difference. -/
structure FollowsDifference (detailed checkSignature : Bool) (t u : Transaction) : Prop where
  /-- The difference lists the fields that differ, with both sides. -/
  listed : t.difference u checkSignature = differing t u (Compared.all checkSignature)
  /-- The fields are listed in one order. -/
  ordered : ((t.difference u checkSignature).map (·.field)).Sublist
    (["nonce", "gas_price", "gas", "to", "value", "input"] ++
      if checkSignature then ["signatures"] else [])
  /-- Each field is listed once. -/
  once : ((t.difference u checkSignature).map (·.field)).Nodup
  /-- Exchanging the transactions exchanges the sides. -/
  swapped : u.difference t checkSignature = (t.difference u checkSignature).map .swap
  /-- Comparing leaves the transaction as it is. -/
  unchanged : (compare detailed u checkSignature t).transaction = t
  /-- Comparing says that the transactions are equal exactly if there is no difference. -/
  equal : (compare detailed u checkSignature t).result = .ok true ↔
    t.difference u checkSignature = []
  /-- It says that they are not exactly if there is a difference, which, if the journal is to have
  it, can be put into words. -/
  unequal : (compare detailed u checkSignature t).result = .ok false ↔
    t.difference u checkSignature ≠ [] ∧
      (detailed = true → (t.difference u checkSignature).writable = true)
  /-- Otherwise a number of the difference has too many digits. -/
  failed : ∀ fault, (compare detailed u checkSignature t).result = .error fault ↔
    t.difference u checkSignature ≠ [] ∧ detailed = true ∧
      (t.difference u checkSignature).writable = false ∧ fault = .tooManyDigits
  /-- Two transactions are as equal as is required exactly if comparing says so. -/
  required : ∀ leftName rightName,
    Subject.requireEqual (.transaction t) (.transaction u) leftName rightName = .ok () ↔
      (compare detailed u true t).result = .ok true
  /-- Otherwise the difference is reported, if it can be put into words. -/
  refused : ∀ leftName rightName, (compare detailed u true t).result ≠ .ok true →
    Subject.requireEqual (.transaction t) (.transaction u) leftName rightName =
      .error (if (t.difference u true).writable = true then
        .unequal (t.difference u true) (leftName.getD "LegacyTransaction_a")
          (rightName.getD "LegacyTransaction_b")
      else .tooManyDigits)
  /-- A claim that two transactions are equal holds exactly if comparing says so. -/
  claimed : Subject.claimEqual (.transaction t) (.transaction u) = .ok () ↔
    (compare detailed u true t).result = .ok true
  /-- Otherwise the difference is reported, if it can be put into words. -/
  denied : (compare detailed u true t).result ≠ .ok true →
    Subject.claimEqual (.transaction t) (.transaction u) =
      .error (if (t.difference u true).writable = true then
        .claimedEqual (.unequal (t.difference u true) "expected" "actual")
      else .tooManyDigits)
  /-- A difference can be put into words exactly if its numbers are short enough. -/
  worded : (t.difference u checkSignature).writable = true ↔
    ∀ f ∈ Compared.all checkSignature, f.content t ≠ f.content u →
      (f.content t).Short ∧ (f.content u).Short

theorem result_compare_eq_ok_true_iff {detailed : Bool} :
    (compare detailed u checkSignature t).result = .ok true ↔
      t.difference u checkSignature = [] := by
  rw [compare_eq_ok_true_iff, equalFields, List.isEmpty_iff]

theorem followsDifference (detailed checkSignature : Bool) (t u : Transaction) :
    FollowsDifference detailed checkSignature t u where
  listed := difference_eq t u checkSignature
  ordered := by
    have hsublist := fields_difference_sublist t u checkSignature
    cases checkSignature <;> exact hsublist
  once := (fields_difference_sublist t u checkSignature).nodup (nodup_names checkSignature)
  swapped := difference_swap t u checkSignature
  unchanged := (compare_observes detailed u checkSignature).transaction t
  equal := result_compare_eq_ok_true_iff
  unequal := by
    rw [result_compare]
    by_cases hnil : t.difference u checkSignature = []
    · simp [hnil]
    · cases detailed <;> cases hwords : (t.difference u checkSignature).writable <;> simp [hnil]
  failed := by
    intro fault
    rw [result_compare]
    by_cases hnil : t.difference u checkSignature = []
    · simp [hnil]
    · cases detailed <;> cases hwords : (t.difference u checkSignature).writable <;>
        simp [hnil, eq_comm]
  required := by
    intro leftName rightName
    rw [requireEqual_transactions, result_compare_eq_ok_true_iff]
    by_cases hnil : t.difference u true = [] <;> simp [hnil]
  refused := by
    intro leftName rightName h
    rw [requireEqual_transactions, if_neg (mt result_compare_eq_ok_true_iff.2 h),
      Fault.ofDifference]
  claimed := by
    rw [claimEqual_transactions, result_compare_eq_ok_true_iff]
    by_cases hnil : t.difference u true = []
    · simp [hnil]
    · cases (t.difference u true).writable <;> simp [hnil]
  denied := by
    intro h
    rw [claimEqual_transactions, if_neg (mt result_compare_eq_ok_true_iff.2 h)]
    split <;> rfl
  worded := writable_difference_iff

theorem equivalence_compare (detailed checkSignature : Bool) :
    Equivalence fun t u => (compare detailed u checkSignature t).result = .ok true where
  refl t := result_compare_eq_ok_true_iff.2 (difference_eq_nil_iff.2 fun _ _ => rfl)
  symm h := by
    have hsame := difference_eq_nil_iff.1 (result_compare_eq_ok_true_iff.1 h)
    exact result_compare_eq_ok_true_iff.2 (difference_eq_nil_iff.2 fun f hf => (hsame f hf).symm)
  trans h h' := by
    have hsame := difference_eq_nil_iff.1 (result_compare_eq_ok_true_iff.1 h)
    have hsame' := difference_eq_nil_iff.1 (result_compare_eq_ok_true_iff.1 h')
    exact result_compare_eq_ok_true_iff.2
      (difference_eq_nil_iff.2 fun f hf => (hsame f hf).trans (hsame' f hf))

/-- **All ways to compare transactions follow their difference**, and being equal is an
equivalence.  The only fault is a difference that has to be put into words and holds a number of too
many digits. -/
theorem compare_exactly (detailed checkSignature : Bool) :
    (∀ t u, FollowsDifference detailed checkSignature t u) ∧
      Equivalence fun t u => (compare detailed u checkSignature t).result = .ok true :=
  ⟨followsDifference detailed checkSignature, equivalence_compare detailed checkSignature⟩

/-! ### A number that is too long -/

/-- A transaction whose value has 4302 decimal digits. -/
def hugeTransfer : Transaction where
  recipient := ⟨.lower, Hex.ofBytes (List.replicate 20 0x22), rfl⟩
  value := ⟨.lower, Hex.lastDigit 1 :: List.replicate 3572 (Hex.lastDigit 0)⟩
  input := []
  common := {}
  slot := .forTransaction .replaceEmpty

/-- The same transaction with nothing to move. -/
def idleTransfer : Transaction := { hugeTransfer with value := ⟨.lower, []⟩ }

/-- Both can be made from texts. -/
theorem exists_create_moving [Stack] (q : Quantity) :
    ∃ a, create none a = .ok { hugeTransfer with value := q } :=
  ⟨{ recipient := .text (Address.optionalText hugeTransfer.recipient)
     value := q.value
     policy := some .replaceEmpty },
    create_eq_ok_iff.2 ⟨hugeTransfer.recipient, q, [], {}, Address.read_optionalText _ _,
      Quantity.read_value _ _, rfl, rfl, rfl⟩⟩

theorem limit_le_hugeTransfer :
    Decimal.powTen Decimal.digitLimit ≤ hugeTransfer.value.toNat := by
  decide +kernel

theorem not_short_hugeTransfer : ¬ (Compared.value.content hugeTransfer).Short := fun h =>
  Nat.not_lt.2 limit_le_hugeTransfer (h hugeTransfer.value.toNat rfl)

theorem short_idleTransfer : (Compared.value.content idleTransfer).Short := by
  rintro k hk
  obtain rfl : 0 = k := Option.some.inj hk
  decide +kernel

open scoped Stack.Usual

/-- **A difference that cannot be put into words**: with a detailed journal comparing fails, and the
transactions are neither found equal nor reported as different. -/
theorem compare_hugeTransfer :
    (∃ a, create none a = .ok hugeTransfer) ∧ (∃ a, create none a = .ok idleTransfer) ∧
    hugeTransfer.difference idleTransfer true ≠ [] ∧
    (compare true idleTransfer true hugeTransfer).result = .error .tooManyDigits ∧
    (Subject.requireEqual (.transaction hugeTransfer) (.transaction idleTransfer) none none) =
      .error .tooManyDigits ∧
    Subject.claimEqual (.transaction hugeTransfer) (.transaction idleTransfer) =
      .error .tooManyDigits := by
  have hmem : Compared.value ∈ Compared.all true := by decide
  have hdiffers : Compared.value.content hugeTransfer ≠ Compared.value.content idleTransfer :=
    fun h => not_short_hugeTransfer ((congrArg Content.Short h).mpr short_idleTransfer)
  have hne : hugeTransfer.difference idleTransfer true ≠ [] := fun h =>
    hdiffers (difference_eq_nil_iff.1 h _ hmem)
  have hwords : (hugeTransfer.difference idleTransfer true).writable = false := by
    refine Bool.eq_false_iff.2 fun h => not_short_hugeTransfer ?_
    exact (writable_difference_iff.1 h _ hmem hdiffers).1
  refine ⟨exists_create_moving _, exists_create_moving _, hne, ?_, ?_, ?_⟩
  · rw [result_compare, if_neg hne, if_pos ⟨rfl, hwords⟩]
  · rw [requireEqual_transactions, if_neg hne, Fault.ofDifference, hwords]
    rfl
  · rw [claimEqual_transactions, if_neg hne, hwords]
    rfl

end Transaction

end PlainTx
