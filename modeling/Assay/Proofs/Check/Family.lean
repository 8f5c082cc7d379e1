import Assay.Checker

/-!
# Families — what sort of value a filter leaves

Texts, numbers and containers are families of values.  Some filters turn every value into one of a
family.  Others refine what is in a family already, and stay within it whether they accept a value
or not: even what a refused value is replaced by can be used as one of its family.

* `Value.family?` is the family of a value;
* `Filter.declares?` is the family that a filter turns every value into;
* `Filter.refines` tells which filters stay within a family;
* `Checker.applyPlain_declares` and `Checker.applyPlain_refines` state that they do.
-/

namespace Assay

inductive Family where
  | text
  /-- Integers and floats. -/
  | number
  /-- Lists and maps. -/
  | container
  deriving DecidableEq

/-- The family of a value, if it belongs to one. -/
def Value.family? : Value → Option Family
  | .str _ => some .text
  | .int _ | .float _ => some .number
  | .list _ | .map _ => some .container
  | _ => none

namespace Filter

variable {ρ : Type}

/-- The family that the filter turns every value into. -/
def declares? : Filter ρ → Option Family
  | .string => some .text
  | .int | .double => some .number
  | .arrays _ => some .container
  | _ => none

/-- The filter takes values of the family to values of the family. -/
def refines (family : Family) : Filter ρ → Bool
  | .max _ | .min _ | .less _ | .more _ => true
  | .scalar => family = .number
  | .trim | .escape _ | .stripTags _ | .lowercase | .uppercase | .color => family = .text
  | .email | .url | .ip | .uri | .regexp _ | .ospatterns _ => family = .text
  | _ => false

end Filter

namespace Check

/-! ## Bounds -/

theorem family?_ofNumber (n : Number) : (Value.ofNumber n).family? = some .number := by
  cases n <;> rfl

/-- Only numbers are measured as numbers. -/
theorem family?_of_size {value : Value} {n : Number} (h : Size.of value = .number n) :
    value.family? = some .number := by
  cases value with
  | int _ => rfl
  | float _ => rfl
  | _ => cases h

/-- A prefix is of the family of its value. -/
theorem truncated_family? (count : Nat) (value : Value) :
    (truncated count value).family? = value.family? := by
  cases value <;> rfl

/-- Cutting to a bound stays within the family. -/
theorem shortened_family? (count : Nat) (value : Value) (fault : Fault) :
    (shortened count value fault).value.family? = value.family? := by
  unfold shortened
  split
  · rfl
  · exact truncated_family? count value

theorem max_family? (bound : Number) (value : Value) :
    (max bound value).value.family? = value.family? := by
  unfold max
  dsimp only
  split
  · split
    · rename_i hsize
      -- The bound takes the place of a number.
      exact (family?_ofNumber bound).trans (family?_of_size hsize).symm
    · exact shortened_family? _ value _
  · rfl

theorem min_family? (bound : Number) (value : Value) :
    (min bound value).value.family? = value.family? := by
  unfold min
  dsimp only
  split
  · split
    · rename_i hsize
      exact (family?_ofNumber bound).trans (family?_of_size hsize).symm
    · rfl
  · rfl

theorem less_family? (bound : Number) (value : Value) :
    (less bound value).value.family? = value.family? := by
  unfold less
  dsimp only
  split
  · rfl
  · rename_i hsize
    split
    · rfl
    · exact (family?_ofNumber _).trans (family?_of_size hsize).symm
  · split
    · rfl
    · exact shortened_family? _ value _

theorem more_family? (bound : Number) (value : Value) :
    (more bound value).value.family? = value.family? := by
  unfold more
  dsimp only
  split
  · rfl
  · rename_i hsize
    split
    · rfl
    · exact (family?_ofNumber _).trans (family?_of_size hsize).symm
  · split
    · rfl
    · split <;> rfl
  · split <;> rfl

/-! ## Texts -/

theorem exists_of_family?_text {value : Value} (h : value.family? = some .text) :
    ∃ text, value = .str text := by
  cases value with
  | str text => exact ⟨text, rfl⟩
  | _ => cases h

/-- A text is replaced by its clean form. -/
theorem cleaned_family? (clean : String → String) (fault : Fault) {value : Value}
    (h : value.family? = some .text) :
    (cleaned clean fault value).value.family? = some .text := by
  rcases exists_of_family?_text h with ⟨text, rfl⟩
  unfold cleaned cleanedTo
  dsimp only [Value.text?]
  split <;> rfl

/-- A text stays a text in another case. -/
theorem cased_family? (change : String → String) (fault : Fault) {value : Value}
    (h : value.family? = some .text) : (cased change fault value).value.family? = some .text := by
  rcases exists_of_family?_text h with ⟨text, rfl⟩
  unfold cased
  dsimp only
  split <;> rfl

theorem color_family? (value : Value) : (color value).value.family? = some .text := by
  unfold color
  dsimp only
  split <;> rfl

/-! ## Formats -/

/-- A format check only looks at the value. -/
theorem formatted_value (fault : Fault) (valid : String → Bool) (value : Value) :
    (formatted fault valid value).value = value := by
  unfold formatted
  split
  · split <;> rfl
  · rfl

theorem uri_value (value : Value) : (uri value).value = value := by
  unfold uri
  dsimp only
  split <;> split <;> rfl

theorem regexp_value (patterns : List (Option Regex)) (value : Value) :
    (regexp patterns value).value = value := by
  unfold regexp
  dsimp only
  split <;> rfl

theorem ospatterns_value (patterns : GlobSet) (value : Value) :
    (ospatterns patterns value).value = value := by
  unfold ospatterns
  split <;> rfl

/-! ## Coercions -/

/-- What string leaves is a text, whether or not it was one. -/
theorem string_family? (value : Value) : (string value).value.family? = some .text := by
  unfold string
  split <;> rfl

/-- What int leaves is a number, whether or not it was one. -/
theorem int_family? (bound : Int64) (value : Value) :
    (int bound value).value.family? = some .number := by
  have hbounded : ∀ numeral, (boundedInteger bound numeral).family? = some .number := by
    intro numeral
    unfold boundedInteger
    split
    · split <;> rfl
    · rfl
  unfold int
  dsimp only
  split
  · exact hbounded _
  · rfl

theorem double_family? (value : Value) : (double value).value.family? = some .number := by
  unfold double
  dsimp only
  split <;> rfl

/-- A number is a scalar. -/
theorem scalar_value {value : Value} (h : value.family? = some .number) :
    (scalar value).value = value := by
  cases value with
  | int _ => rfl
  | float _ => rfl
  | _ => cases h

end Check

namespace Checker

/-- Whatever a plain filter is given, it leaves a value of the family that it declares. -/
theorem applyPlain_declares (checker : Checker) {filter : Filter Rule} {family : Family}
    (h : filter.declares? = some family) (plain : ∀ shape, filter ≠ .arrays shape)
    (value : Value) : (checker.applyPlain filter value).value.family? = some family := by
  cases filter with
  | string => cases h; exact Check.string_family? value
  | int => cases h; exact Check.int_family? _ value
  | double => cases h; exact Check.double_family? value
  | arrays shape => exact absurd rfl (plain shape)
  | _ => cases h

/-- A filter that refines a family leaves a value of it in the place of one of it. -/
theorem applyPlain_refines (checker : Checker) {filter : Filter Rule} {family : Family}
    (h : filter.refines family = true) {value : Value} (hvalue : value.family? = some family) :
    (checker.applyPlain filter value).value.family? = some family := by
  -- Apart from bounds, each filter refines a single family.
  cases filter with
  | max bound => exact (Check.max_family? bound value).trans hvalue
  | min bound => exact (Check.min_family? bound value).trans hvalue
  | less bound => exact (Check.less_family? bound value).trans hvalue
  | more bound => exact (Check.more_family? bound value).trans hvalue
  | scalar =>
      cases of_decide_eq_true h
      exact (congrArg Value.family? (Check.scalar_value hvalue)).trans hvalue
  | trim =>
      cases of_decide_eq_true h
      exact Check.cleaned_family? _ _ hvalue
  | escape full =>
      cases of_decide_eq_true h
      exact Check.cleaned_family? _ _ hvalue
  | stripTags allowed =>
      cases of_decide_eq_true h
      exact Check.cleaned_family? _ _ hvalue
  | lowercase =>
      cases of_decide_eq_true h
      exact Check.cased_family? _ _ hvalue
  | uppercase =>
      cases of_decide_eq_true h
      exact Check.cased_family? _ _ hvalue
  | color =>
      cases of_decide_eq_true h
      exact Check.color_family? value
  | email => exact (congrArg Value.family? (Check.formatted_value _ _ value)).trans hvalue
  | url => exact (congrArg Value.family? (Check.formatted_value _ _ value)).trans hvalue
  | ip => exact (congrArg Value.family? (Check.formatted_value _ _ value)).trans hvalue
  | uri => exact (congrArg Value.family? (Check.uri_value value)).trans hvalue
  | regexp patterns =>
      exact (congrArg Value.family? (Check.regexp_value patterns value)).trans hvalue
  | ospatterns patterns =>
      exact (congrArg Value.family? (Check.ospatterns_value patterns value)).trans hvalue
  | _ => cases h

end Checker

end Assay
