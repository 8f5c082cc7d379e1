import Assay.Proofs.Number.Grammar

/-!
# Literals — what the check of an integer takes for one

The check looks for a literal in the text of an integer or in a text, once its spaces are gone.  A
literal is a sign and digits, however many; everything else is refused.

* `Value.literal?` is the text in which a literal is looked for;
* `Check.integerNumeral?_isSome_iff` states that literals are what spells an integer;
* `Check.int_classifies` states what becomes of every integer and every text.
-/

namespace Assay

/-- The text of an integer, or a text, without its spaces. -/
def Value.literal? : Value → Option String
  | int i => some (Check.withoutSpaces (toString i.toInt))
  | str s => some (Check.withoutSpaces s)
  | _ => none

namespace Check

open Numeral

variable {bound : Int64} {value : Value} {literal text : String} {k : Int}

/-- What spells an integer has no spaces. -/
theorem withoutSpaces_of_spells (h : Spells text.toList k) : withoutSpaces text = text := by
  have hspace : Text.isBlank ' ' = true := by decide
  have hkept : text.toList.filter (· != ' ') = text.toList := by
    refine List.filter_eq_self.2 fun c hc => bne_iff_ne.2 ?_
    rintro rfl
    rw [h.not_blank ' ' hc] at hspace
    cases hspace
  rw [withoutSpaces, hkept, String.ofList_toList]

/-- A text is read as a literal if and only if it spells an integer. -/
theorem integerNumeral?_isSome_iff :
    (integerNumeral? text).isSome = true ↔ ∃ k, Spells text.toList k := by
  constructor
  · intro h
    rcases exists_signForm text.toList with ⟨sign, ofSign, htext⟩
    unfold integerNumeral? at h
    rcases hscan : scanSign text.toList with ⟨negative, digits⟩
    rw [hscan] at h htext ofSign
    dsimp only at h htext ofSign
    split at h
    · cases h
    · rename_i hdigits
      rw [htext]
      exact ⟨_, spells_of_digits ofSign (digitsForm_iff.1 (eq_false_of_ne_true hdigits))⟩
  · rintro ⟨k, h⟩
    rcases integerNumeral?_of_spells h with ⟨negative, digits, hnumeral, -⟩
    rw [hnumeral]
    rfl

/-- The literal is looked for in the text that is read. -/
theorem integerText?_of_literal? (h : value.literal? = some literal) :
    integerText? (spaceless value) = some literal := by
  cases value with
  | int i =>
      cases h
      rw [withoutSpaces_of_spells (spells_toString i.toInt)]
      rfl
  | str s =>
      cases h
      rfl
  | _ => cases h

/-- A value is written as the integer that its literal spells. -/
theorem writes_of_literal? (h : value.literal? = some literal) (spells : Spells literal.toList k) :
    value.Writes k := by
  cases value with
  | int i =>
      cases h
      have htext := spells_toString i.toInt
      rw [withoutSpaces_of_spells htext] at spells
      exact htext.unique spells
  | str s =>
      cases h
      exact spells
  | _ => cases h

/-- What spells no integer is refused, and an integer takes its place. -/
theorem int_of_not_spells (bound : Int64) (h : value.literal? = some literal)
    (foreign : ¬ ∃ k, Spells literal.toList k) :
    ∃ i, int bound value = .fail (.int i) (faultOf .int "Invalid integer") := by
  have hnone : integerNumeral? literal = none := by
    rw [← integerNumeral?_isSome_iff, Option.not_isSome_iff_eq_none] at foreign
    exact foreign
  unfold int
  dsimp only
  rw [integerText?_of_literal? h, Option.bind_some, hnone]
  exact ⟨_, rfl⟩

/-- An integer, or a text, is accepted if it spells an integer once its spaces are gone.  The result
is that integer if it lies strictly within the bound, and else the nearest float.  All other texts
are refused under the code of the check, and the result is an integer still. -/
theorem int_classifies (positive : 0 < bound.toInt) (h : value.literal? = some literal) :
    (∀ k, Spells literal.toList k →
      (-bound.toInt < k ∧ k < bound.toInt →
        ∃ i : Int64, int bound value = .ok (.int i) ∧ i.toInt = k) ∧
      (¬ (-bound.toInt < k ∧ k < bound.toInt) →
        int bound value = .ok (.float (.ofInt k)))) ∧
    ((¬ ∃ k, Spells literal.toList k) →
      ∃ i fault, int bound value = .fail (.int i) fault ∧ fault.code = some "int") := by
  constructor
  · intro k spells
    rcases int_eq_boundedInteger bound (writes_of_literal? h spells) with
      ⟨negative, digits, hvalue, hint⟩
    -- The bound is held against the size of the integer, whatever its sign.
    constructor
    · intro within
      have hwithin : (k.natAbs : Int) < bound.toInt := by omega
      rcases boundedInteger_within hvalue hwithin with ⟨i, hi, hresult⟩
      exact ⟨i, hint.trans (congrArg Outcome.ok hresult), hi⟩
    · intro beyond
      have hbeyond : bound.toInt ≤ k.natAbs := by omega
      have hresult := boundedInteger_beyond hvalue positive hbeyond
      exact hint.trans (congrArg Outcome.ok hresult)
  · -- Without an integer there is nothing to hold against the bound.
    intro foreign
    rcases int_of_not_spells bound h foreign with ⟨i, hint⟩
    exact ⟨i, _, hint, rfl⟩

/-- Three texts against the bound 100: an integer below it, the bound itself, and no integer. -/
theorem int_classifies_hundred :
    (∃ i : Int64, int 100 (.str "+0 99") = .ok (.int i) ∧ i.toInt = 99) ∧
    int 100 (.str "1 00") = .ok (.float (.ofInt 100)) ∧
    ∃ i fault, int 100 (.str "1.5") = .fail (.int i) fault ∧ fault.code = some "int" := by
  have hpositive : 0 < (100 : Int64).toInt := by decide
  have hbelow : Spells (withoutSpaces "+0 99").toList 99 := by
    have hchars : (withoutSpaces "+0 99").toList = ['+', '0', '9', '9'] := by decide
    have hspells : Spells ['+', '0', '9', '9'] 99 := .plus (by decide) (by decide)
    rwa [hchars]
  have hbound : Spells (withoutSpaces "1 00").toList 100 := by
    have hchars : (withoutSpaces "1 00").toList = ['1', '0', '0'] := by decide
    have hspells : Spells ['1', '0', '0'] 100 := .unsigned (by decide) (by decide)
    rwa [hchars]
  have hnone : ¬ ∃ k, Spells (withoutSpaces "1.5").toList k := by
    rw [← integerNumeral?_isSome_iff]
    decide
  exact ⟨((int_classifies hpositive rfl).1 99 hbelow).1 (by decide),
    ((int_classifies hpositive rfl).1 100 hbound).2 (by decide),
    (int_classifies hpositive rfl).2 hnone⟩

end Check

end Assay
