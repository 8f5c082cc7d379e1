import Assay.Proofs.Check.Family
import Assay.Proofs.Text.Stripping

/-!
# Normal values — filters that accept what they leave

A check that is made twice finds nothing the second time: whatever it leaves of a value, be it
accepted or refused, it accepts as it is.

* `Check.Normalizes` says this of a check, with one lemma for each check that does so;
* `Filter.normalizes` lists their filters;
* `Checker.applyPlain_normalizes` states that they do.
-/

namespace Assay

namespace Check

/-- What the check leaves, it accepts and leaves as it is. -/
def Normalizes (check : Value → Outcome) : Prop :=
  ∀ value, check (check value).value = .ok (check value).value

/-- What the check leaves of this value, it accepts and leaves as it is. -/
def Settles (check : Value → Outcome) (value : Value) : Prop :=
  check (check value).value = .ok (check value).value

/-- It is enough that a value is left as it is, or replaced by one that is accepted. -/
theorem normalizes_of_cases {check : Value → Outcome}
    (h : ∀ value, check value = .ok value ∨
      check (check value).value = .ok (check value).value) : Normalizes check := by
  intro value
  rcases h value with hsame | hreplaced
  · rw [hsame]
    exact hsame
  · exact hreplaced

/-! ## Coercions -/

/-- Whatever the value, a truth value is left. -/
theorem bool_normalizes : Normalizes bool := by
  intro value
  cases value <;> rfl

theorem string_normalizes : Normalizes string := by
  intro value
  unfold string
  cases value.text? <;> rfl

/-- A float has no commas or spaces to take out. -/
theorem double_normalizes : Normalizes double := by
  have hfloat : ∀ x, double (.float x) = .ok (.float x) := fun _ => rfl
  intro value
  have hleft : ∃ x, (double value).value = .float x := by
    unfold double
    dsimp only
    cases (pointed value).numeric? with
    | none => exact ⟨_, rfl⟩
    | some n => exact ⟨_, rfl⟩
  rcases hleft with ⟨x, hx⟩
  rw [hx]
  exact hfloat x

theorem scalar_normalizes : Normalizes scalar := by
  refine normalizes_of_cases fun value => ?_
  cases hscalar : value.isScalar with
  | true => exact .inl (by simp [scalar, hscalar])
  | false =>
      have hleft : (scalar value).value = .int 0 := by simp [scalar, hscalar, Outcome.fail]
      refine .inr ?_
      rw [hleft]
      rfl

theorem null_normalizes : Normalizes null := by
  intro value
  have hleft : (null value).value = .null := by
    unfold null
    split <;> rfl
  rw [hleft]
  rfl

/-! ## Texts -/

theorem looseEq_str_self (s : String) : Value.looseEq (.str s) (.str s) = true := by
  have hstrict : Value.strictEq (.str s) (.str s) = true := by
    simp only [Value.strictEq, beq_self_eq_true]
  unfold Value.looseEq
  rw [hstrict, Bool.true_or]

/-- What a cleaning filter leaves is the cleaned text. -/
theorem cleaned_value {clean : String → String} {fault : Fault} {value : Value} {s : String}
    (h : value.text? = some s) : (cleaned clean fault value).value = .str (clean s) := by
  unfold cleaned cleanedTo
  rw [h]
  dsimp only
  split <;> rfl

/-- A check that cleans texts accepts them clean. -/
theorem cleaned_normalizes {clean : String → String} (hclean : ∀ s, clean (clean s) = clean s)
    (fault : Fault) : Normalizes (cleaned clean fault) := by
  refine normalizes_of_cases fun value => ?_
  cases htext : value.text? with
  | none => exact .inl (by simp [cleaned, htext])
  | some s =>
      refine .inr ?_
      rw [cleaned_value htext]
      change cleanedTo (clean (clean s)) fault (.str (clean s)) = _
      rw [hclean, cleanedTo, if_pos (looseEq_str_self (clean s))]

/-- Trimming leaves nothing to trim. -/
theorem trim_normalizes : Normalizes trim := cleaned_normalizes Text.strip_strip _

/-- A color is written with its digits, which no sign or space surrounds. -/
theorem color_normalizes : Normalizes color := by
  have hdigit : ∀ c, isHexDigit c = true → (c == ' ' || c == '#') = false := by
    intro c hc
    rw [Bool.eq_false_iff]
    intro hends
    rcases Bool.or_eq_true_iff.1 hends with h | h
    · cases eq_of_beq h
      exact absurd hc (by decide)
    · cases eq_of_beq h
      exact absurd hc (by decide)
  have hcolor : ∀ digits : List Char, digits.length = 3 ∨ digits.length = 6 →
      digits.all isHexDigit = true →
      color (.str (String.ofList ('#' :: digits))) =
        .ok (.str (String.ofList ('#' :: digits))) := by
    intro digits hlength hdigits
    have hread : colorDigits (String.ofList ('#' :: digits)) = digits := by
      unfold colorDigits
      rw [String.toList_ofList, Text.stripOf_cons rfl]
      exact Text.stripOf_of_forall fun c hc => hdigit c (List.all_eq_true.1 hdigits c hc)
    simp only [color, Value.text?, Option.elim_some, hread, Value.isScalar, hdigits]
    rcases hlength with h | h <;> simp [h]
  intro value
  unfold color
  dsimp only
  split
  · rename_i hvalid
    simp only [Bool.and_eq_true, Bool.or_eq_true, beq_iff_eq] at hvalid
    exact hcolor _ hvalid.1.2 hvalid.2
  · exact hcolor ['0', '0', '0', '0', '0', '0'] (.inr rfl) (by decide)

/-! ## Bounds -/

/-- What is truncated is no longer than the count. -/
theorem lengthOf_truncated (count : Nat) (value : Value) :
    lengthOf (truncated count value) ≤ count := by
  cases value with
  | str s =>
      have hcut : lengthOf (truncated count (.str s)) = (s.toList.take count).length := by
        simp [truncated, lengthOf]
      exact hcut.trans_le (List.length_take_le _ _)
  | list items => exact List.length_take_le _ _
  | map entries => exact List.length_take_le _ _
  | _ => exact Nat.zero_le _

/-- What is measured as a number is a number before a cut and after it. -/
theorem number_size_of_truncated {count : Nat} {value : Value} {n : Number}
    (h : Size.of (truncated count value) = .number n) : Size.of value = .number n := by
  cases value with
  | int _ => exact h
  | float _ => exact h
  | _ => cases h

/-- What is no number and short enough is not cut. -/
theorem max_of_lengthOf_le (bound : Number) {value : Value}
    (hlength : lengthOf value ≤ bound.toLength) (hother : ∀ n, Size.of value ≠ .number n) :
    max bound value = .ok value := by
  unfold max
  dsimp only
  split
  · split
    · rename_i hsize
      exact absurd hsize (hother _)
    · rw [shortened, if_pos hlength]
  · rfl

/-- A number beyond an integer becomes the integer, and what is too long is cut to its length. -/
theorem max_normalizes (i : Int64) : Normalizes (max (.int i)) := by
  have hbound : max (.int i) (.int i) = .ok (.int i) := by
    have hequal : ¬(Size.of (.int i)).compare? (.int i) = some .gt := by
      simp [Size.of, Size.compare?, Number.compare?]
    rw [max, if_neg hequal]
  refine normalizes_of_cases fun value => ?_
  by_cases hover : (Size.of value).compare? (.int i) = some .gt
  · by_cases hnumber : ∃ n, Size.of value = .number n
    · rcases hnumber with ⟨n, hsize⟩
      have hleft : (max (.int i) value).value = .int i := by
        rw [max, if_pos hover, hsize]
        rfl
      exact .inr (by rw [hleft, hbound])
    · have hother : ∀ n, Size.of value ≠ .number n := fun n hsize => hnumber ⟨n, hsize⟩
      by_cases hlength : lengthOf value ≤ (Number.int i).toLength
      · exact .inl (max_of_lengthOf_le (.int i) hlength hother)
      · have hleft : (max (.int i) value).value = truncated (Number.int i).toLength value := by
          unfold max
          dsimp only
          rw [if_pos hover]
          split
          · rename_i hsize
            exact absurd hsize (hother _)
          · rw [shortened, if_neg hlength]
            rfl
        -- The cut value is as long as the bound allows, and no number either.
        have hcut := max_of_lengthOf_le (.int i)
          (lengthOf_truncated (Number.int i).toLength value)
          fun n hsize => hother n (number_size_of_truncated hsize)
        exact .inr (by rw [hleft, hcut])
  · refine .inl ?_
    rw [max, if_neg hover]

end Check

def Filter.normalizes {ρ : Type} : Filter ρ → Bool
  | .bool | .string | .double | .scalar | .null | .trim | .color => true
  | .max (.int _) => true
  | _ => false

namespace Checker

/-- Every normalizing filter does nothing the second time. -/
theorem applyPlain_normalizes (checker : Checker) {filter : Filter Rule}
    (h : filter.normalizes = true) : Check.Normalizes (checker.applyPlain filter) := by
  cases filter with
  | bool => exact Check.bool_normalizes
  | string => exact Check.string_normalizes
  | double => exact Check.double_normalizes
  | scalar => exact Check.scalar_normalizes
  | null => exact Check.null_normalizes
  | trim => exact Check.trim_normalizes
  | color => exact Check.color_normalizes
  | max bound =>
      -- Of numbers only integers are listed.
      cases bound with
      | int i => exact Check.max_normalizes i
      | float _ => cases h
  | _ => cases h

end Checker

end Assay
