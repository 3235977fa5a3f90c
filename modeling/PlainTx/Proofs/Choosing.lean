/-
**What a setting chooses.**

A choice matches a given text if its value is the same text apart from letter case and blanks at the
ends.  A setting is meant to choose the first choice that matches.  Only the given text is trimmed
and put into lower case, though, and not the values.  What is chosen is the first matching choice
whose value is *normal*, that is, trimmed and in lower case as it stands; a choice whose value is
not normal is never chosen, not even by its own value.  So a setting chooses what it is meant to
wherever the first match is normal, and only there.

Main definitions:

* `PlainTx.Setting.Choice.Matches`, `PlainTx.Setting.Choice.Normal` — the choices that match a text,
  and those with a normal value;
* `PlainTx.Setting.IsFirst` — the first choice of a kind, in order of definition;
* `PlainTx.Setting.ChoosesNormal` — what a setting chooses that is given a text.

Main results:

* `PlainTx.Setting.normalize_normalize` — what is compared with the values is normal;
* `PlainTx.Setting.find_text_eq_ok_iff`, `PlainTx.Setting.find_text_of_none` — the choice found;
* `PlainTx.Setting.choose_given` — a default does not count where something is given;
* `PlainTx.Setting.choose_first_matching` — **the first match is chosen exactly if it is normal**;
* `PlainTx.Setting.choose_capitalized` — a value with a capital letter is not found by itself.
-/

import Mathlib.Data.List.Nodup
import PlainTx.Proofs.LetterCase
import PlainTx.Signature.Slot

set_option relaxedAutoImplicit false
set_option autoImplicit false

namespace PlainTx

/-- Nothing but a text is the same as a text. -/
theorem Value.same_text_iff {x : Value} {t : String} : x.same (.text t) = true ↔ x = .text t := by
  cases x with
  | real z =>
      cases hz : Decimal.magnitude? z <;> simp [same, sameNumber, ratio?, int?, hz]
  | _ => simp [same, sameNumber, ratio?, int?]

namespace Setting

variable {α : Type} {name : String} {choices : List (Choice α)} {text : String}

/-! ### Normal texts -/

/-- **What is compared with the values is normal.** -/
theorem normalize_normalize (s : String) : normalize (normalize s) = normalize s := by
  have htrimmed : Text.Trimmed Text.isBlank (Text.lower (Text.trimBy Text.isBlank s.toList)) :=
    Text.trimmed_lowerFrom (Text.trimmed_trimBy _ _) false
  rw [normalize, normalize, String.toList_ofList, Text.trimBy_of_trimmed htrimmed, Text.lower_lower]

/-- The value of the choice and the text are the same, apart from letter case and blanks at the
ends. -/
def Choice.Matches (c : Choice α) (text : String) : Prop :=
  ∃ v, c.value = .text v ∧ normalize v = normalize text

/-- The value of the choice is trimmed and in lower case as it stands. -/
def Choice.Normal (c : Choice α) : Prop := ∃ v, c.value = .text v ∧ normalize v = v

/-- The choices that match a text and are normal are those whose value is the text as it is
compared. -/
theorem matches_and_normal_iff {c : Choice α} :
    c.Matches text ∧ c.Normal ↔ c.value = .text (normalize text) := by
  constructor
  · rintro ⟨⟨v, hv, hmatch⟩, w, hw, hnormal⟩
    obtain rfl : v = w := Value.text.inj (hv.symm.trans hw)
    rw [hv, ← hmatch, hnormal]
  · intro h
    have hnormal := normalize_normalize text
    exact ⟨⟨_, h, hnormal⟩, _, h, hnormal⟩

/-! ### The choice found -/

/-- The first of the choices, in order of definition, that are of a kind. -/
def IsFirst (kind : Choice α → Prop) (choices : List (Choice α)) (c : Choice α) : Prop :=
  kind c ∧ ∃ before after, choices = before ++ c :: after ∧ ∀ d ∈ before, ¬ kind d

theorem IsFirst.mem {kind : Choice α → Prop} {c : Choice α} (h : IsFirst kind choices c) :
    c ∈ choices := by
  obtain ⟨_, before, after, rfl, _⟩ := h
  exact List.mem_append_right before List.mem_cons_self

theorem find?_same_eq_some_iff {c : Choice α} :
    choices.find? (·.value.same (.text (normalize text))) = some c ↔
      IsFirst (fun d => d.Matches text ∧ d.Normal) choices c := by
  simp only [List.find?_eq_some_iff_append, IsFirst, matches_and_normal_iff, Bool.not_eq_true',
    Value.same_text_iff, Bool.eq_false_iff, ne_eq]

/-- **A text finds the first of the normal choices that match it.** -/
theorem find_text_eq_ok_iff {a : α} :
    find name choices (.text text) = .ok a ↔
      ∃ c, IsFirst (fun d => d.Matches text ∧ d.Normal) choices c ∧ c.item = a := by
  simp only [← find?_same_eq_some_iff, find, normalized?]
  cases choices.find? (·.value.same (.text (normalize text))) <;> simp

/-- A text that no normal choice matches finds nothing. -/
theorem find_text_of_none (h : ∀ c ∈ choices, ¬ (c.Matches text ∧ c.Normal)) :
    find name choices (.text text) =
      .error (.noChoice name ((distinct choices).map (·.value.plain))
        (Value.text text).quoted) := by
  have hnone : choices.find? (·.value.same (.text (normalize text))) = none := by
    refine List.find?_eq_none.2 fun c hc hsame => h c hc ?_
    exact matches_and_normal_iff.2 (Value.same_text_iff.1 hsame)
  simp only [find, normalized?, hnone]

/-- A value that is normal is found by every text that matches it. -/
theorem exists_find_text {c : Choice α} (hc : c ∈ choices) (h : c.Matches text ∧ c.Normal) :
    ∃ d ∈ choices, find name choices (.text text) = .ok d.item ∧ d.value = c.value := by
  have hkind := matches_and_normal_iff.1 h
  cases hfind : choices.find? (·.value.same (.text (normalize text))) with
  | none => exact absurd (Value.same_text_iff.2 hkind) (List.find?_eq_none.1 hfind c hc)
  | some d =>
      have hfirst := find?_same_eq_some_iff.1 hfind
      refine ⟨d, hfirst.mem, find_text_eq_ok_iff.2 ⟨d, hfirst, rfl⟩, ?_⟩
      rw [hkind, matches_and_normal_iff.1 hfirst.1]

/-! ### The choice of a setting -/

/-- A setting that is given chooses what its text finds; a default does not count. -/
theorem choose_given {required : Bool} {default : Default α}
    (h : required = false ∨ default = .none) :
    choose name choices (some text) required default = find name choices (.text text) := by
  rcases h with rfl | rfl
  · rfl
  · cases required <;> rfl

/-- What a setting chooses that is given a text. -/
structure ChoosesNormal (name : String) (choices : List (Choice α)) (text : String)
    (required : Bool) (default : Default α) : Prop where
  /-- The first choice that matches the text is chosen exactly if it is normal. -/
  first : ∀ c, IsFirst (·.Matches text) choices c →
    (choose name choices (some text) required default = .ok c.item ↔ c.Normal)
  /-- What is chosen is the first normal choice among those that match. -/
  chosen : ∀ a, choose name choices (some text) required default = .ok a ↔
    ∃ c, IsFirst (fun d => d.Matches text ∧ d.Normal) choices c ∧ c.item = a
  /-- The fault is that there is none. -/
  refused : (∀ c ∈ choices, ¬ (c.Matches text ∧ c.Normal)) →
    choose name choices (some text) required default =
      .error (.noChoice name ((distinct choices).map (·.value.plain)) (Value.text text).quoted)
  /-- A choice that matches and is normal has the value of what is chosen. -/
  found : ∀ c ∈ choices, c.Matches text → c.Normal →
    ∃ d ∈ choices, choose name choices (some text) required default = .ok d.item ∧
      d.value = c.value
  /-- A default does not count. -/
  ignored : ∀ other, choose name choices (some text) false other =
    choose name choices (some text) required default
  /-- It is chosen where nothing is given. -/
  fallback : ∀ a, choose name choices none false (.item a) = .ok a
  /-- Where there is none, nothing is chosen then. -/
  unset : choose name choices none false .none = .error .noDefault
  /-- A setting that is required may have none. -/
  exclusive : ∀ given other, other ≠ .none →
    choose name choices given true other = .error .defaultOfRequired

/-- **The first choice that matches a text is chosen exactly if it is normal.** -/
theorem choose_first_matching (hitems : (choices.map (·.item)).Nodup) (name text : String)
    {required : Bool} {default : Default α} (h : required = false ∨ default = .none) :
    ChoosesNormal name choices text required default where
  first := by
    intro c hfirst
    rw [choose_given h, find_text_eq_ok_iff]
    constructor
    · rintro ⟨d, hd, hitem⟩
      obtain rfl : d = c := List.inj_on_of_nodup_map hitems hd.mem hfirst.mem hitem
      exact hd.1.2
    · intro hnormal
      obtain ⟨hmatch, before, after, hsplit, hbefore⟩ := hfirst
      have hnone : ∀ d ∈ before, ¬ (d.Matches text ∧ d.Normal) := fun d hd hkind =>
        hbefore d hd hkind.1
      exact ⟨c, ⟨⟨hmatch, hnormal⟩, before, after, hsplit, hnone⟩, rfl⟩
  chosen := by
    intro a
    rw [choose_given h]
    exact find_text_eq_ok_iff
  refused := by
    rw [choose_given h]
    exact find_text_of_none
  found := by
    intro c hc hmatch hnormal
    rw [choose_given h]
    exact exists_find_text hc ⟨hmatch, hnormal⟩
  ignored := by
    intro other
    rw [choose_given h, choose_given (.inl rfl)]
  fallback _ := rfl
  unset := rfl
  exclusive := by
    intro given other hother
    cases other with
    | none => exact absurd rfl hother
    | _ => rfl

/-- The policies for held signatures, chosen by a text in capitals with blanks at its ends. -/
theorem choose_first_matching_policies :
    (Policy.choices.map (·.item)).Nodup ∧
      choose Policy.settingName Policy.choices (some "  REPLACE-Empty\n") false
        (.item .reject) = .ok Policy.replaceEmpty := by
  have hitems : (Policy.choices.map (·.item)).Nodup := by decide
  have htext : normalize "  REPLACE-Empty\n" = Policy.replaceEmpty.text := by decide +kernel
  let chosen : Choice Policy := ⟨.replaceEmpty, .text Policy.replaceEmpty.text⟩
  have hkind : chosen.Matches "  REPLACE-Empty\n" ∧ chosen.Normal :=
    matches_and_normal_iff.2 (congrArg Value.text htext.symm)
  have hoptional : false = false ∨ (Default.item Policy.reject) = .none := .inl rfl
  have hlaw := (choose_first_matching hitems Policy.settingName "  REPLACE-Empty\n" hoptional).first
  refine ⟨hitems, (hlaw chosen ⟨hkind.1, [], _, rfl, ?_⟩).2 hkind.2⟩
  exact fun d hd => absurd hd List.not_mem_nil

/-- A value with a capital letter is not found by itself. -/
theorem choose_capitalized :
    let red : Choice String := ⟨"RED", .text "Red"⟩
    IsFirst (·.Matches "Red") [red] red ∧
      choose "COLOR" [red] (some "Red") false .none =
        .error (.noChoice "COLOR" ["Red"] "'Red'") := by
  intro red
  have hred : normalize "Red" = "red" := by decide +kernel
  refine ⟨⟨⟨"Red", rfl, rfl⟩, [], [], rfl, fun d hd => absurd hd List.not_mem_nil⟩, ?_⟩
  have hnone : ∀ c ∈ [red], ¬ (c.Matches "Red" ∧ c.Normal) := by
    intro c hc hkind
    rw [List.mem_singleton.1 hc, matches_and_normal_iff, hred] at hkind
    exact absurd (Value.text.inj hkind) (by decide)
  rw [choose_given (.inl rfl), find_text_of_none hnone]
  decide +kernel

end Setting

end PlainTx
